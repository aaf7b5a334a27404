/-! Names, paths and environment values are strings of bytes that need not be
text. -/
namespace CodecHost

abbrev Bytes := List UInt8

namespace Bytes

/-- The stretches between occurrences of a byte, the empty ones included. -/
def splitOn (separator : UInt8) : Bytes → List Bytes
  | [] => [[]]
  | b :: rest =>
    if b = separator then [] :: splitOn separator rest
    else match splitOn separator rest with
      | [] => [[b]]
      | first :: others => (b :: first) :: others

/-- Pieces with a byte between each two of them. -/
def joinWith (separator : UInt8) : List Bytes → Bytes
  | [] => []
  | [piece] => piece
  | piece :: next :: rest => piece ++ separator :: joinWith separator (next :: rest)

theorem splitOn_ne_nil (separator : UInt8) (bytes : Bytes) : splitOn separator bytes ≠ [] := by
  cases bytes with
  | nil => simp [splitOn]
  | cons b rest =>
    simp only [splitOn]
    split
    · simp
    · split <;> simp

variable {separator : UInt8} {piece bytes : Bytes}

/-- Bytes without the separator are one piece. -/
theorem splitOn_free (free : separator ∉ piece) : splitOn separator piece = [piece] := by
  induction piece with
  | nil => rfl
  | cons b rest ih =>
    have differs : separator ≠ b := List.ne_of_not_mem_cons free
    rw [splitOn, if_neg differs.symm, ih (List.not_mem_of_not_mem_cons free)]

/-- A separator ends what stands before it and begins what stands behind it. -/
theorem splitOn_append (front back : Bytes) :
    splitOn separator (front ++ separator :: back) =
      splitOn separator front ++ splitOn separator back := by
  induction front with
  | nil => simp [splitOn]
  | cons b rest ih =>
    rw [List.cons_append, splitOn, splitOn, ih]
    split
    · rfl
    · obtain ⟨first, others, pieces⟩ := List.exists_cons_of_ne_nil (splitOn_ne_nil separator rest)
      rw [pieces]
      rfl

theorem separator_not_mem (part : piece ∈ splitOn separator bytes) : separator ∉ piece := by
  induction bytes generalizing piece with
  | nil =>
    rw [List.mem_singleton.mp part]
    exact List.not_mem_nil
  | cons b rest ih =>
    rw [splitOn] at part
    split at part
    · rcases List.mem_cons.mp part with rfl | part
      · exact List.not_mem_nil
      · exact ih part
    · next differs =>
      obtain ⟨first, others, pieces⟩ := List.exists_cons_of_ne_nil (splitOn_ne_nil separator rest)
      rw [pieces] at part ih
      rcases List.mem_cons.mp part with rfl | part
      · exact List.not_mem_cons_of_ne_of_not_mem (Ne.symm differs) (ih List.mem_cons_self)
      · exact ih (List.mem_cons_of_mem first part)

end Bytes
end CodecHost
