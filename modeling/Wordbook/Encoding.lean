import Wordbook.Encoding.Utf8
import Wordbook.Encoding.Utf16
import Wordbook.Encoding.Korean

/-!
# Text encodings of a dictionary file

A dictionary file may be in one of four encodings, tried in this order:

1. `utf-8-sig`: one leading UTF-8 byte-order mark EF BB BF is dropped, the rest is strict
   UTF-8;
2. `utf-8`: strict UTF-8 (it accepts nothing the first attempt refuses, so it never wins);
3. `utf-16`: FF FE starts little-endian text, FE FF big-endian text, and without either mark
   the whole file is little-endian;
4. `cp949`: the Korean code page.

`detect` answers with the first encoding that decodes the bytes. When none does, the failure
names the encodings tried and the last one's complaint.
-/

namespace Wordbook

/-- The encodings a dictionary file is read in. -/
inductive TextEncoding where
  | utf8Sig
  | utf8
  | utf16
  | cp949
  deriving DecidableEq

namespace TextEncoding

open Encoding

/-- The name an encoding is reported by. -/
def name : TextEncoding → String
  | .utf8Sig => "utf-8-sig"
  | .utf8 => "utf-8"
  | .utf16 => "utf-16"
  | .cp949 => "cp949"

/-- The encoding a name stands for. -/
def ofName? : String → Option TextEncoding
  | "utf-8-sig" => some .utf8Sig
  | "utf-8" => some .utf8
  | "utf-16" => some .utf16
  | "cp949" => some .cp949
  | _ => none

/-- The bytes after a prefix, if they start with it. -/
def afterPrefix? (pre bytes : List UInt8) : Option (List UInt8) :=
  if pre.isPrefixOf bytes then some (bytes.drop pre.length) else none

/-- Strict decoding in one encoding; `none` when any byte sequence is malformed. -/
def decode? (e : TextEncoding) (bytes : List UInt8) : Option String :=
  match e with
  | .utf8Sig => Utf8.decode? ((afterPrefix? Utf8.bomBytes bytes).getD bytes)
  | .utf8 => Utf8.decode? bytes
  | .utf16 =>
    match afterPrefix? (Utf16.bomBytes .little) bytes with
    | some body => Utf16.decode? .little body
    | none =>
      match afterPrefix? (Utf16.bomBytes .big) bytes with
      | some body => Utf16.decode? .big body
      | none => Utf16.decode? .little bytes
  | .cp949 => Korean.decode? bytes

/-- The order in which the encodings are tried. -/
def order : List TextEncoding := [.utf8Sig, .utf8, .utf16, .cp949]

end TextEncoding

/-- A decoded file: its text and the encoding that read it. -/
structure Decoded where
  encoding : TextEncoding
  text : String

/-- No encoding read the file: the encodings tried, in order, and the last one. -/
structure DecodeFailure where
  tried : List TextEncoding
  last : TextEncoding

/-- The complaint of the last encoding tried. -/
def DecodeFailure.lastComplaint (f : DecodeFailure) : String := s!"malformed {f.last.name} data"

/-- The tried encodings' names, comma separated. -/
def DecodeFailure.triedNames (f : DecodeFailure) : String :=
  ", ".intercalate (f.tried.map TextEncoding.name)

/-- The first encoding among `candidates` that decodes the bytes; `tried` are the ones before. -/
def detectAmong (bytes : List UInt8) (tried : List TextEncoding) :
    List TextEncoding → TextEncoding → Except DecodeFailure Decoded
  | [], last => .error ⟨tried, last⟩
  | e :: rest, _ =>
    match e.decode? bytes with
    | some text => .ok ⟨e, text⟩
    | none => detectAmong bytes (tried ++ [e]) rest e

/-- The first encoding, in the order `utf-8-sig`, `utf-8`, `utf-16`, `cp949`, that decodes
the bytes, with the text it reads. -/
def detect (bytes : List UInt8) : Except DecodeFailure Decoded :=
  detectAmong bytes [] TextEncoding.order .utf8Sig

end Wordbook
