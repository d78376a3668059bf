import Folio.Text.Blank
import Folio.Text.Punctuation

/-! Where emphasis and quotations may open and close, by the characters in front of a run of signs and
behind it. Where there is no character, a line begins or the text ends. -/

namespace Folio.Markdown

/-- Whether something may open at a run. Stars open inside words, and so do two tildes; a single quote
after a closing bracket opens nothing. -/
def opensAt (sign : Char) (count : Nat) (before after : Option Char) : Bool :=
  match before, after with
  | _, none => false
  | none, some n => !Text.isBlank n
  | some p, some n =>
    !Text.isBlank n &&
      (sign = '*' && !Text.isPunctuation n ||
        sign = '~' && (1 < count || p = '~' && !Text.isPunctuation n) ||
        Text.isBlank p ||
        Text.isPunctuation p && !(sign = '\'' && (p = ']' || p = ')')))

/-- Whether something may close at a run. -/
def closesAt (sign : Char) (count : Nat) (before after : Option Char) : Bool :=
  match before, after with
  | none, _ => false
  | some p, none => !Text.isBlank p
  | some p, some n =>
    !Text.isBlank p &&
      ((sign = '*' || sign = '~' && 1 < count) && !Text.isPunctuation p ||
        sign = '~' && p = '~' ||
        Text.isBlank n || Text.isPunctuation n)

end Folio.Markdown
