import FieldRules.Message.Catalog

/-!
# Texts

The messages that are always there, in English, German and traditional Chinese, by their short keys.
-/

namespace FieldRules.Texts

/-- The messages without a locale. -/
def english : List (String × String) :=
  [("missing-value", "The value to validate is missing"),
    ("empty-elements", "Nothing to validate, no constrained fields were found"),
    ("test-passed", "Validation passed"),
    ("test-rejected", "Validation failed"),
    ("required", "\x7blabel\x7d is required"),
    ("not-empty", "\x7blabel\x7d must not be empty"),
    ("not-blank", "\x7blabel\x7d must not be blank"),
    ("length", "\x7blabel\x7d must have a size of exactly \x7b0\x7d"),
    ("length.str", "\x7blabel\x7d must be exactly \x7b0\x7d characters long"),
    ("length.range", "\x7blabel\x7d must have a size between \x7b0\x7d and \x7b1\x7d"),
    ("length.range.str", "\x7blabel\x7d must be between \x7b0\x7d and \x7b1\x7d characters long"),
    ("min", "\x7blabel\x7d must be greater than or equal to \x7b0\x7d"),
    ("min.size", "\x7blabel\x7d must contain at least \x7b0\x7d items"),
    ("min.size.str", "\x7blabel\x7d must be at least \x7b0\x7d characters long"),
    ("max", "\x7blabel\x7d must be less than or equal to \x7b0\x7d"),
    ("max.size", "\x7blabel\x7d must contain at most \x7b0\x7d items"),
    ("max.size.str", "\x7blabel\x7d must be at most \x7b0\x7d characters long"),
    ("range", "\x7blabel\x7d must be between \x7b0\x7d and \x7b1\x7d"),
    ("range.size", "\x7blabel\x7d must contain between \x7b0\x7d and \x7b1\x7d items"),
    ("range.size.str", "\x7blabel\x7d must be between \x7b0\x7d and \x7b1\x7d characters long"),
    ("pattern", "\x7blabel\x7d does not match the pattern \x7b0\x7d"),
    ("contains", "\x7blabel\x7d must be one of: \x7belements\x7d"),
    ("prefixs", "\x7blabel\x7d must start with one of: \x7belements\x7d"),
    ("suffixs", "\x7blabel\x7d must end with one of: \x7belements\x7d"),
    ("equals", "\x7blabel\x7d must equal \x7b0\x7d"),
    ("equals.specify", "\x7blabel\x7d must equal \x7b0\x7d"),
    ("equals.related", "\x7blabel\x7d must match \x7btarget\x7d"),
    ("url", "\x7blabel\x7d is not a valid URL"),
    ("password", "\x7blabel\x7d is not a valid password"),
    ("password.weak", "\x7blabel\x7d must be at least 6 characters long"),
    ("password.medium", "\x7blabel\x7d must be at least 8 characters long and contain letters and digits"),
    ("password.strong", "\x7blabel\x7d must be at least 10 characters long and contain upper and lower case letters, digits and symbols"),
    ("ip", "\x7blabel\x7d is not a valid IPv4 address"),
    ("email", "\x7blabel\x7d is not a valid email address"),
    ("ascii", "\x7blabel\x7d may only contain ASCII characters"),
    ("postal-code", "\x7blabel\x7d is not a valid postal code"),
    ("letter", "\x7blabel\x7d may only contain letters"),
    ("letter-lowercase", "\x7blabel\x7d may only contain lowercase letters"),
    ("letter-uppercase", "\x7blabel\x7d may only contain uppercase letters"),
    ("alpha-numeric", "\x7blabel\x7d may only contain letters and digits"),
    ("chinese", "\x7blabel\x7d may only contain Chinese characters"),
    ("colour", "\x7blabel\x7d is not a valid hex colour"),
    ("username", "\x7blabel\x7d is not a valid user name"),
    ("int", "\x7blabel\x7d must be an integer"),
    ("int-negative", "\x7blabel\x7d must be a negative integer"),
    ("int-positive", "\x7blabel\x7d must be a positive integer"),
    ("decimal", "\x7blabel\x7d must be a decimal number"),
    ("decimal-negative", "\x7blabel\x7d must be a negative decimal number"),
    ("decimal-positive", "\x7blabel\x7d must be a positive decimal number")]

/-- The German messages. -/
def german : List (String × String) :=
  [("missing-value", "Der zu prüfende Wert fehlt"),
    ("empty-elements", "Nichts zu prüfen, es wurden keine eingeschränkten Felder gefunden"),
    ("test-passed", "Prüfung bestanden"),
    ("test-rejected", "Prüfung fehlgeschlagen"),
    ("required", "\x7blabel\x7d ist erforderlich"),
    ("not-empty", "\x7blabel\x7d darf nicht leer sein"),
    ("not-blank", "\x7blabel\x7d darf nicht leer sein"),
    ("length", "\x7blabel\x7d muss genau \x7b0\x7d Elemente enthalten"),
    ("length.str", "\x7blabel\x7d muss genau \x7b0\x7d Zeichen lang sein"),
    ("length.range", "\x7blabel\x7d muss zwischen \x7b0\x7d und \x7b1\x7d Elemente enthalten"),
    ("length.range.str", "\x7blabel\x7d muss zwischen \x7b0\x7d und \x7b1\x7d Zeichen lang sein"),
    ("min", "\x7blabel\x7d muss größer oder gleich \x7b0\x7d sein"),
    ("min.size", "\x7blabel\x7d muss mindestens \x7b0\x7d Elemente enthalten"),
    ("min.size.str", "\x7blabel\x7d muss mindestens \x7b0\x7d Zeichen lang sein"),
    ("max", "\x7blabel\x7d muss kleiner oder gleich \x7b0\x7d sein"),
    ("max.size", "\x7blabel\x7d darf höchstens \x7b0\x7d Elemente enthalten"),
    ("max.size.str", "\x7blabel\x7d darf höchstens \x7b0\x7d Zeichen lang sein"),
    ("range", "\x7blabel\x7d muss zwischen \x7b0\x7d und \x7b1\x7d liegen"),
    ("range.size", "\x7blabel\x7d muss zwischen \x7b0\x7d und \x7b1\x7d Elemente enthalten"),
    ("range.size.str", "\x7blabel\x7d muss zwischen \x7b0\x7d und \x7b1\x7d Zeichen lang sein"),
    ("pattern", "\x7blabel\x7d entspricht nicht dem Muster \x7b0\x7d"),
    ("contains", "\x7blabel\x7d muss einer der folgenden Werte sein: \x7belements\x7d"),
    ("prefixs", "\x7blabel\x7d muss mit einem der folgenden Werte beginnen: \x7belements\x7d"),
    ("suffixs", "\x7blabel\x7d muss mit einem der folgenden Werte enden: \x7belements\x7d"),
    ("equals.specify", "\x7blabel\x7d muss \x7b0\x7d entsprechen"),
    ("equals.related", "\x7blabel\x7d muss mit \x7btarget\x7d übereinstimmen"),
    ("url", "\x7blabel\x7d ist keine gültige URL"),
    ("email", "\x7blabel\x7d ist keine gültige E-Mail-Adresse"),
    ("ip", "\x7blabel\x7d ist keine gültige IPv4-Adresse"),
    ("int", "\x7blabel\x7d muss eine ganze Zahl sein"),
    ("decimal", "\x7blabel\x7d muss eine Dezimalzahl sein")]

/-- The messages in traditional Chinese. -/
def chinese : List (String × String) :=
  [("missing-value", "缺少要驗證的值"),
    ("empty-elements", "沒有需要驗證的欄位"),
    ("test-passed", "驗證通過"),
    ("test-rejected", "驗證失敗"),
    ("required", "\x7blabel\x7d為必填"),
    ("not-empty", "\x7blabel\x7d不能為空"),
    ("not-blank", "\x7blabel\x7d不能為空白"),
    ("length.str", "\x7blabel\x7d的長度必須為\x7b0\x7d個字元"),
    ("length.range.str", "\x7blabel\x7d的長度必須介於\x7b0\x7d到\x7b1\x7d個字元之間"),
    ("min", "\x7blabel\x7d必須大於或等於\x7b0\x7d"),
    ("min.size.str", "\x7blabel\x7d至少需要\x7b0\x7d個字元"),
    ("max", "\x7blabel\x7d必須小於或等於\x7b0\x7d"),
    ("max.size.str", "\x7blabel\x7d最多只能有\x7b0\x7d個字元"),
    ("range", "\x7blabel\x7d必須介於\x7b0\x7d到\x7b1\x7d之間"),
    ("pattern", "\x7blabel\x7d格式不正確"),
    ("contains", "\x7blabel\x7d必須是以下其中之一：\x7belements\x7d"),
    ("equals.related", "\x7blabel\x7d必須與\x7btarget\x7d相同"),
    ("email", "\x7blabel\x7d不是有效的電子郵件地址"),
    ("url", "\x7blabel\x7d不是有效的網址")]

/-- What the short keys have in front of them. -/
def keyPrefix : String := "validator.handler"

/-- The short keys of the messages about a whole validation. -/
def missingValue : String := "missing-value"
def emptyElements : String := "empty-elements"
def testPassed : String := "test-passed"
def testRejected : String := "test-rejected"

/-- The catalog of messages by their full keys. -/
def catalog (texts : List (String × String)) : Catalog :=
  texts.map fun (key, text) => (keyPrefix ++ "." ++ key, text)

/-- The catalog for a tag, if there is one. -/
def forTag? : Option String → Option Catalog
  | none => some (catalog english)
  | some "de" => some (catalog german)
  | some "zh-TW" => some (catalog chinese)
  | some _ => none

end FieldRules.Texts
