import DamagePlan.Text.Quoted

/-!
Levels of the log. A level is looked up by its name in capitals among the constants of the log, and a name that is
not among them stands for the usual level. Two of the constants are no levels.
-/
set_option autoImplicit false

namespace DamagePlan.Command

inductive LogLevelFault where
  | messageFormat
  | formatStyles
deriving DecidableEq

namespace LogLevelFault

def messageFormatText : String := "%(levelname)s:%(name)s:%(message)s"

def styleText (sign className format : String) : String :=
  Text.quoted sign ++ ": (<class " ++ Text.quoted ("logging." ++ className) ++ ">, " ++ Text.quoted format ++ ")"

def formatStylesText : String :=
  "\x7b" ++ ", ".intercalate [
    styleText "%" "PercentStyle" messageFormatText,
    styleText "\x7b" "StrFormatStyle" "\x7blevelname\x7d:\x7bname\x7d:\x7bmessage\x7d",
    styleText "$" "StringTemplateStyle" "$\x7blevelname\x7d:$\x7bname\x7d:$\x7bmessage\x7d"] ++ "\x7d"

def message : LogLevelFault → String
  | .messageFormat => s!"Unknown level: {Text.quoted messageFormatText}"
  | .formatStyles => s!"Level not an integer or a valid string: {formatStylesText}"

end LogLevelFault

def latinCapitals : List (Char × String) := [
  ('ı', "I"), ('ſ', "S"), ('ß', "SS"), ('ﬀ', "FF"), ('ﬁ', "FI"), ('ﬂ', "FL"), ('ﬃ', "FFI"), ('ﬄ', "FFL"),
  ('ﬅ', "ST"), ('ﬆ', "ST")]

def inCapitals (name : String) : String :=
  String.join (name.toList.map fun c => (latinCapitals.lookup c).getD (String.singleton c.toUpper))

def logLevelFault? (name : String) : Option LogLevelFault :=
  match inCapitals name with
  | "BASIC_FORMAT" => some .messageFormat
  | "_STYLES" => some .formatStyles
  | _ => none

end DamagePlan.Command
