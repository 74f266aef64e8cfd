-- SUMMARY: Cutting a text at a separator.

/-!
# Splitting
-/

namespace WebhookRelay.Text

/-- Cuts a text at every occurrence of a character; the parts have at least one member. -/
def splitOn (sep : Char) : List Char → List (List Char)
  | [] => [[]]
  | c :: cs =>
    if c = sep then [] :: splitOn sep cs
    else
      match splitOn sep cs with
      | [] => [[c]]
      | part :: parts => (c :: part) :: parts

end WebhookRelay.Text
