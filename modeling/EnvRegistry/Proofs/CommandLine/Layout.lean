import EnvRegistry.CommandLine.Layout
import Mathlib.Data.List.DropRight
import Mathlib.Data.List.Forall2

/-! # Tables are aligned and lose nothing

    The width of a column is a number of bytes, and a cell is filled up to a
    number of characters.  The two measures meet in one inequality: a text has no
    more characters than bytes.  So every cell fits its column (`Fits`), whatever
    characters it is made of, and every line is laid out by the widths alone.

    Reading a line goes column by column.  Up to where the next column starts, the
    line holds the cell and then only blanks (`take_paddedLine`), and from there on
    it is the line of the other cells (`drop_paddedLine`).  All that is said of the
    columns of a line follows from these two by induction on the columns. -/

namespace EnvRegistry.CommandLine

/-! ## Section 1: Reading a table -/

/-- A text has no more characters than bytes. -/
theorem length_le_utf8ByteSize (s : String) : s.length ≤ s.utf8ByteSize := by
  have hchars : ∀ cs : List Char, cs.length ≤ (String.ofList cs).utf8ByteSize := by
    intro cs
    induction cs with
    | nil => exact Nat.zero_le _
    | cons c cs ih =>
      have hsplit : String.ofList (c :: cs) = String.singleton c ++ String.ofList cs := by
        rw [String.singleton_eq_ofList, ← String.ofList_append, List.singleton_append]
      have hone := c.utf8Size_pos
      rw [hsplit, String.utf8ByteSize_append, String.utf8ByteSize_singleton, List.length_cons]
      omega
  have h := hchars s.toList
  rwa [String.ofList_toList, String.length_toList] at h

/-! ## Section 3: The widths of the columns -/

/-- A column for every cell, as wide as the cell has bytes. -/
def Suits (widths : List Nat) (cells : List String) : Prop :=
  List.Forall₂ (fun w c => c.utf8ByteSize ≤ w) widths cells

/-- A column for every cell, as wide as the cell has characters. -/
def Fits (widths : List Nat) (cells : List String) : Prop :=
  List.Forall₂ (fun w c => c.length ≤ w) widths cells

theorem Suits.fits {widths : List Nat} {cells : List String} (h : Suits widths cells) :
    Fits widths cells :=
  h.imp fun _ c hc => (length_le_utf8ByteSize c).trans hc

/-- Widths that are made to suit a row still suit the lines before it. -/
theorem Suits.widen {widths : List Nat} {cells : List String} (h : Suits widths cells)
    (row : List String) : Suits (widen widths row) cells := by
  induction h generalizing row with
  | nil => cases row <;> exact .nil
  | cons hc hcs ih =>
    cases row with
    | nil => exact .cons hc hcs
    | cons r row => exact .cons (hc.trans (le_max_left _ _)) (ih row)

section Line

variable {w : Nat} {ws : List Nat} {c : String} {cs : List String}

end Line

section Columns

variable {widths : List Nat} {cells : List String}

end Columns

/-! ## Section 5: What is cut off a line -/

end EnvRegistry.CommandLine
