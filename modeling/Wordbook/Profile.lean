import Wordbook.Text.Blank
import Wordbook.Text.Ascii

/-!
# Language profiles

Each language the editor serves has a profile: a short code, a label for menus and the name
of its dictionary file, `dictionary_<code>.txt`. There are five, in this order: English,
Korean, Spanish, Portuguese and French. A code is looked up trimmed and ignoring ASCII case.
-/

namespace Wordbook

/-- The languages with a dictionary. -/
inductive Profile where
  | en
  | ko
  | es
  | pt
  | fr
  deriving DecidableEq

namespace Profile

/-- The short code of a profile. -/
def code : Profile → String
  | .en => "en"
  | .ko => "ko"
  | .es => "es"
  | .pt => "pt"
  | .fr => "fr"

/-- The label a menu shows. -/
def label : Profile → String
  | .en => "EN (English)"
  | .ko => "KO (한국어)"
  | .es => "ES (Español)"
  | .pt => "PT (Português)"
  | .fr => "FR (Français)"

/-- The name of the profile's dictionary file. -/
def filename (p : Profile) : String := s!"dictionary_{p.code}.txt"

/-- All profiles, in menu order. -/
def all : List Profile := [.en, .ko, .es, .pt, .fr]

/-- The profile used when none is chosen. -/
def default : Profile := .en

/-- The profile with a code, ignoring blanks around it and ASCII case. -/
def find? (code : String) : Option Profile :=
  let wanted := Text.trim code
  all.find? fun p => Text.eqIgnoreAsciiCase p.code wanted

theorem find_code (p : Profile) : find? p.code = some p := by
  cases p <;> decide

end Profile

end Wordbook
