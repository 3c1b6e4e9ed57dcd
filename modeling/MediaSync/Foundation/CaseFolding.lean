import Mathlib.Data.List.Basic
import MediaSync.Foundation.Text

/-! `str.casefold` maps each character to a few characters that do not depend on those around it.
The table is a parameter; what is known of it is that folding again changes nothing, that nothing
folds to the empty text, and that the characters of ASCII that are not letters stay themselves and
come from nothing else. -/
namespace MediaSync.Text

def isSign (c : Char) : Bool := c.toNat < 128 && !isAsciiLetter c

/-- What `str.casefold` does to each character. -/
structure CaseFolding where
  fold : Char → List Char
  folded : ∀ c, (fold c).flatMap fold = fold c
  filled : ∀ c, fold c ≠ []
  signs : ∀ sign, isSign sign = true → fold sign = [sign]
  apart : ∀ c sign, isSign sign = true → sign ∈ fold c → c = sign

namespace CaseFolding

variable (py : CaseFolding)

/-- `value.casefold()`, of the characters of a text. -/
def foldText (text : List Char) : List Char := text.flatMap py.fold

/-- `value.casefold()`. -/
def casefold (value : String) : String := String.ofList (py.foldText value.toList)

theorem foldText_foldText (text : List Char) :
    py.foldText (py.foldText text) = py.foldText text := by
  rw [foldText, foldText, List.flatMap_assoc]
  exact List.flatMap_congr fun c _ => py.folded c

@[simp] theorem casefold_casefold (value : String) :
    py.casefold (py.casefold value) = py.casefold value := by
  rw [casefold, casefold, String.toList_ofList, foldText_foldText]

variable {sign : Char}

theorem mem_foldText_iff {text : List Char} (h : isSign sign = true) :
    sign ∈ py.foldText text ↔ sign ∈ text := by
  constructor
  · intro hmem
    obtain ⟨c, hc, hfold⟩ := List.mem_flatMap.mp hmem
    exact py.apart c sign h hfold ▸ hc
  · intro hmem
    refine List.mem_flatMap.mpr ⟨sign, hmem, ?_⟩
    rw [py.signs sign h]
    exact List.mem_singleton_self sign

theorem mem_casefold_iff {value : String} (h : isSign sign = true) :
    sign ∈ (py.casefold value).toList ↔ sign ∈ value.toList := by
  rw [casefold, String.toList_ofList, py.mem_foldText_iff h]

theorem head_foldText {text : List Char} (h : isSign sign = true) (hhead : text.head? ≠ some sign) :
    (py.foldText text).head? ≠ some sign := by
  cases text with
  | nil => exact fun heq => by cases heq
  | cons c rest =>
    intro heq
    obtain ⟨d, more, hfold⟩ := List.exists_cons_of_ne_nil (py.filled c)
    rw [foldText, List.flatMap_cons, hfold, List.cons_append, List.head?_cons] at heq
    have hd : d = sign := Option.some.inj heq
    have hmem : sign ∈ py.fold c := by
      rw [hfold, hd]
      exact List.mem_cons_self
    exact hhead (by rw [List.head?_cons, py.apart c sign h hmem])

end CaseFolding

def lowerLetter (c : Char) : Char :=
  if 'A' ≤ c ∧ c ≤ 'Z' then Char.ofNat (c.toNat + 32) else c

variable {c : Char}

theorem lowerLetter_eq (h : ¬ ('A' ≤ c ∧ c ≤ 'Z')) : lowerLetter c = c := if_neg h

theorem lowerLetter_upper (h : 'A' ≤ c ∧ c ≤ 'Z') :
    isAsciiLetter (lowerLetter c) = true ∧ lowerLetter (lowerLetter c) = lowerLetter c := by
  have hall : ∀ n, n < 26 →
      isAsciiLetter (lowerLetter (Char.ofNat (65 + n))) = true ∧
        lowerLetter (lowerLetter (Char.ofNat (65 + n))) = lowerLetter (Char.ofNat (65 + n)) := by
    decide
  have hlow : 65 ≤ c.toNat := h.1
  have hhigh : c.toNat ≤ 90 := h.2
  have hc : Char.ofNat (65 + (c.toNat - 65)) = c := by
    rw [Nat.add_sub_cancel' hlow, Char.ofNat_toNat]
  exact hc ▸ hall (c.toNat - 65) (by omega)

theorem lowerLetter_lowerLetter (c : Char) : lowerLetter (lowerLetter c) = lowerLetter c := by
  by_cases h : 'A' ≤ c ∧ c ≤ 'Z'
  · exact (lowerLetter_upper h).2
  · rw [lowerLetter_eq h, lowerLetter_eq h]

theorem lowerLetter_of_isSign (h : isSign c = true) : lowerLetter c = c := by
  refine lowerLetter_eq fun hletter => ?_
  rw [isSign, isAsciiLetter] at h
  simp [hletter] at h

theorem eq_of_lowerLetter_isSign (h : isSign (lowerLetter c) = true) : lowerLetter c = c := by
  by_cases hletter : 'A' ≤ c ∧ c ≤ 'Z'
  · rw [isSign, (lowerLetter_upper hletter).1] at h
    simp at h
  · exact lowerLetter_eq hletter

def asciiFolding : CaseFolding where
  fold c := [lowerLetter c]
  folded c := congrArg (fun d => [d]) (lowerLetter_lowerLetter c)
  filled _ := List.cons_ne_nil _ _
  signs sign h := congrArg (fun d => [d]) (lowerLetter_of_isSign h)
  apart c sign h hmem := by
    have heq : sign = lowerLetter c := List.mem_singleton.mp hmem
    rw [heq] at h ⊢
    exact (eq_of_lowerLetter_isSign h).symm

end MediaSync.Text
