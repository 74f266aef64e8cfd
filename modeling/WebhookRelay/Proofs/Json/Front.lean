-- SUMMARY: The characters at the front of a text that write a string or a number write it before any other text too.
import WebhookRelay.Proofs.Json.Grammar

/-!
# Fronts

The grammar relates a text with what follows a piece in it. For strings and numbers the piece is
a front of the text, and the grammar lets the same characters write the same before whatever else
follows them (`Stands`). So a string or a number can be moved from one text to another.
-/

namespace WebhookRelay.Json

/-- Whether some characters write something before any text. -/
def Stands {α : Type} (writes : List Char → α → List Char → Prop) (chars : List Char) (x : α) :
    Prop :=
  ∀ rest, writes (chars ++ rest) x rest

variable {cs rest : List Char}

theorem WritesString.front {units : List StringUnit} (h : WritesString cs units rest) :
    ∃ chars, cs = chars ++ rest ∧ Stands WritesString chars units := by
  induction h with
  | close => exact ⟨['"'], rfl, .close⟩
  | @plain c _ _ _ plain _ ih =>
    obtain ⟨chars, rfl, hchars⟩ := ih
    exact ⟨c :: chars, rfl, fun rest => .plain plain (hchars rest)⟩
  | @escape e _ _ _ _ escape _ ih =>
    obtain ⟨chars, rfl, hchars⟩ := ih
    exact ⟨'\\' :: e :: chars, rfl, fun rest => .escape escape (hchars rest)⟩
  | @code w x y z _ _ _ _ code _ ih =>
    obtain ⟨chars, rfl, hchars⟩ := ih
    exact ⟨'\\' :: 'u' :: w :: x :: y :: z :: chars, rfl, fun rest => .code code (hchars rest)⟩

theorem WritesDigits.front {ds : List Nat} (h : WritesDigits cs ds rest) :
    ∃ chars, cs = chars ++ rest ∧ Stands WritesDigits chars ds := by
  induction h with
  | @last c _ digit => exact ⟨[c], rfl, .last digit⟩
  | @cons c _ _ _ _ digit _ ih =>
    obtain ⟨chars, rfl, hchars⟩ := ih
    exact ⟨c :: chars, rfl, fun rest => .cons digit (hchars rest)⟩

theorem WritesMinus.front {negative : Bool} (h : WritesMinus cs negative rest) :
    ∃ chars, cs = chars ++ rest ∧ Stands WritesMinus chars negative := by
  cases h with
  | absent => exact ⟨[], rfl, .absent⟩
  | minus => exact ⟨['-'], rfl, .minus⟩

theorem WritesFraction.front {fraction : Option (List Nat)}
    (h : WritesFraction cs fraction rest) :
    ∃ chars, cs = chars ++ rest ∧ Stands WritesFraction chars fraction := by
  cases h with
  | absent => exact ⟨[], rfl, .absent⟩
  | present digits =>
    obtain ⟨chars, rfl, hchars⟩ := digits.front
    exact ⟨'.' :: chars, rfl, fun rest => .present (hchars rest)⟩

theorem WritesSign.front {minus : Bool} (h : WritesSign cs minus rest) :
    ∃ chars, cs = chars ++ rest ∧ Stands WritesSign chars minus := by
  cases h with
  | absent => exact ⟨[], rfl, .absent⟩
  | plus => exact ⟨['+'], rfl, .plus⟩
  | minus => exact ⟨['-'], rfl, .minus⟩

theorem WritesExponent.front {exponent : Option (Bool × List Nat)}
    (h : WritesExponent cs exponent rest) :
    ∃ chars, cs = chars ++ rest ∧ Stands WritesExponent chars exponent := by
  cases h with
  | absent => exact ⟨[], rfl, .absent⟩
  | @present e _ _ _ _ _ letter sign digits =>
    obtain ⟨signChars, rfl, hsign⟩ := sign.front
    obtain ⟨chars, rfl, hchars⟩ := digits.front
    refine ⟨e :: (signChars ++ chars), by simp, fun rest => ?_⟩
    have hsigned := hsign (chars ++ rest)
    rw [← List.append_assoc] at hsigned
    exact .present letter hsigned (hchars rest)

theorem WritesNumber.front {l : Literal} (h : WritesNumber cs l rest) :
    ∃ chars, cs = chars ++ rest ∧ Stands WritesNumber chars l := by
  cases h with
  | mk minus digits noLeadingZero point power =>
    obtain ⟨minusChars, rfl, hminus⟩ := minus.front
    obtain ⟨wholeChars, rfl, hwhole⟩ := digits.front
    obtain ⟨pointChars, rfl, hpoint⟩ := point.front
    obtain ⟨powerChars, rfl, hpower⟩ := power.front
    refine ⟨minusChars ++ (wholeChars ++ (pointChars ++ powerChars)), by simp, fun rest => ?_⟩
    simp only [List.append_assoc]
    exact .mk (hminus _) (hwhole _) noLeadingZero (hpoint _) (hpower rest)

/-- What is the whole of a text writes the same before any text. -/
theorem stands_of_front {α : Type} {writes : List Char → α → List Char → Prop} {x : α}
    (h : ∃ chars, cs = chars ++ [] ∧ Stands writes chars x) : Stands writes cs x := by
  obtain ⟨chars, hcs, hchars⟩ := h
  rw [List.append_nil] at hcs
  rwa [hcs]

theorem WritesString.stands {units : List StringUnit} (h : WritesString cs units []) :
    Stands WritesString cs units :=
  stands_of_front h.front

theorem WritesNumber.stands {l : Literal} (h : WritesNumber cs l []) :
    Stands WritesNumber cs l :=
  stands_of_front h.front

end WebhookRelay.Json
