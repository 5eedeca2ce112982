import Marengo.Lib.Bytes

/-!
# Prefix codes

A code is a prefix code if a word of it and whatever follows the word can be told apart. Numbers of a
fixed width are such a code, and so are bytes behind their number, tuples, and lists in which a marker
says whether another element follows.
-/

variable {α : Type} {code : α → List UInt8}

/-- A word tells its value and where it ends. -/
def PrefixCode (code : α → List UInt8) : Prop :=
  ∀ ⦃a b : α⦄ ⦃x y : List UInt8⦄, code a ++ x = code b ++ y → a = b ∧ x = y

namespace PrefixCode

theorem leBytes_inj {w m n : ℕ} {x y : List UInt8} (hm : m < 256 ^ w) (hn : n < 256 ^ w)
    (h : leBytes w m ++ x = leBytes w n ++ y) : m = n ∧ x = y := by
  obtain ⟨hword, hrest⟩ := List.append_inj h (by simp)
  have hvalue := congrArg ofLeBytes hword
  rw [ofLeBytes_leBytes hm, ofLeBytes_leBytes hn] at hvalue
  exact ⟨hvalue, hrest⟩

/-- Bytes behind their number. -/
theorem counted (w : ℕ) : PrefixCode fun bytes : {bytes : List UInt8 // bytes.length < 256 ^ w} =>
    leBytes w bytes.1.length ++ bytes.1 := by
  intro a b x y h
  rw [List.append_assoc, List.append_assoc] at h
  obtain ⟨hlength, h⟩ := leBytes_inj a.2 b.2 h
  obtain ⟨hbytes, hrest⟩ := List.append_inj h hlength
  exact ⟨Subtype.ext hbytes, hrest⟩

/-- As many words as are known to follow. -/
theorem tuple (hcode : PrefixCode code) {as bs : List α} {x y : List UInt8}
    (hlength : as.length = bs.length) (h : as.flatMap code ++ x = bs.flatMap code ++ y) :
    as = bs ∧ x = y := by
  induction as generalizing bs with
  | nil =>
    obtain rfl := List.eq_nil_of_length_eq_zero hlength.symm
    exact ⟨rfl, h⟩
  | cons a as ih =>
    obtain _ | ⟨b, bs⟩ := bs
    · cases hlength
    rw [List.flatMap_cons, List.flatMap_cons, List.append_assoc, List.append_assoc] at h
    obtain ⟨rfl, htail⟩ := hcode h
    obtain ⟨rfl, hrest⟩ := ih (Nat.succ.inj hlength) htail
    exact ⟨rfl, hrest⟩

/-- Words behind a marker each, and a last marker. -/
theorem marked (hcode : PrefixCode code) {more last : UInt8} (hmarkers : more ≠ last) :
    PrefixCode fun as : List α => as.flatMap (fun a => more :: code a) ++ [last] := by
  intro as bs x y h
  induction as generalizing bs with
  | nil =>
    obtain _ | ⟨b, bs⟩ := bs
    · exact ⟨rfl, (List.cons.inj h).2⟩
    · exact absurd (List.cons.inj h).1 hmarkers.symm
  | cons a as ih =>
    obtain _ | ⟨b, bs⟩ := bs
    · exact absurd (List.cons.inj h).1 hmarkers
    simp only [List.flatMap_cons, List.cons_append, List.append_assoc] at h ih
    obtain ⟨rfl, htail⟩ := hcode (List.cons.inj h).2
    obtain ⟨rfl, hrest⟩ := ih htail
    exact ⟨rfl, hrest⟩

end PrefixCode
