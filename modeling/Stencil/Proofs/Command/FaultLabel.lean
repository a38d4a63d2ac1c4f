/-
This file says where the label of a fault in a JSON file lands. The line and the column of a
fault name an offset: the bytes up to the last line feed before it and the column behind them.
The label adds up lines that have lost their ends, one byte for each end. A line that ends in a
carriage return and a line feed has lost two, so the label falls short of the offset by one byte
for every such line before the fault, and only by them.
-/

import Stencil.Command.Diagnostic
import Stencil.Json.Reader

namespace Stencil

namespace Text

/-! ### Lines that have ended -/

/-- How often a carriage return stands in front of a line feed. -/
def returns : Text → Nat
  | [] => 0
  | character :: rest =>
    (if character = '\r' ∧ rest.head? = some '\n' then 1 else 0) + returns rest

theorem returns_eq_zero_iff {text : Text} : text.returns = 0 ↔ ¬ ['\r', '\n'] <:+: text := by
  induction text with
  | nil => simp [returns]
  | cons character rest inductionHypothesis =>
    have front : ['\r', '\n'] <+: character :: rest ↔
        character = '\r' ∧ rest.head? = some '\n' := by
      rw [List.cons_prefix_cons, eq_comm, List.head?_eq_some_iff]
      simp only [List.IsPrefix, List.singleton_append, eq_comm]
    rw [returns, Nat.add_eq_zero_iff, inductionHypothesis, List.infix_cons_iff, front, not_or]
    simp

/-- Of a line only the end counts. -/
theorem returns_append_feed {line : Text} (single : '\n' ∉ line) (rest : Text) :
    returns (line ++ '\n' :: rest) =
      (if line.getLast? = some '\r' then 1 else 0) + returns rest := by
  induction line with
  | nil => rfl
  | cons character tail inductionHypothesis =>
    have tailSingle : '\n' ∉ tail := fun member => single (List.mem_cons_of_mem _ member)
    rw [List.cons_append, returns, inductionHypothesis tailSingle]
    cases tail with
    | nil => simp
    | cons next others =>
      have noFeed : next ≠ '\n' := fun same => tailSingle (same ▸ List.mem_cons_self)
      simp [noFeed]

theorem size_withoutReturn (line : Text) :
    line.withoutReturn.size + (if line.getLast? = some '\r' then 1 else 0) = line.size := by
  rw [withoutReturn]
  split
  · rename_i ends
    obtain ⟨front, rfl⟩ := List.getLast?_eq_some_iff.1 ends
    rw [List.dropLast_concat, size_append]
    rfl
  · rfl

/-- A line feed ends the first line. -/
theorem lines_append_feed {line : Text} (single : '\n' ∉ line) (rest : Text) :
    lines (line ++ '\n' :: rest) = line.withoutReturn :: lines rest := by
  have later := List.splitOn_ne_nil '\n' rest
  rw [lines, lines, List.splitOn_append_cons_self_of_not_mem single,
    List.dropLast_cons_of_ne_nil later, List.getLast?_cons_of_ne_nil later]
  rfl

/-- A text is made of lines that have ended. -/
def EndsInFeed (text : Text) : Prop :=
  text = [] ∨ text.getLast? = some '\n'

/-- The bytes of lines, with one more for the end of each. -/
def bytesOfLines (lines : List Text) : Nat :=
  lines.foldr (fun line bytes => line.size + 1 + bytes) 0

/-- The lines that have ended before a place fall short of their bytes by the carriage returns in
front of their line feeds. -/
theorem bytesOfLines_add_returns {before : Text} (ends : EndsInFeed before) (rest : Text) :
    bytesOfLines ((lines (before ++ rest)).take (before.count '\n')) + before.returns =
      before.size := by
  induction feeds : before.count '\n' generalizing before with
  | zero =>
    have noFeed : '\n' ∉ before := List.count_eq_zero.1 feeds
    obtain rfl : before = [] := ends.resolve_right fun last => noFeed (List.mem_of_getLast? last)
    rfl
  | succ count inductionHypothesis =>
    have member : '\n' ∈ before := List.count_pos_iff.1 (by omega)
    obtain ⟨line, tail, rfl, single⟩ := List.eq_append_cons_of_mem member
    have tailEnds : EndsInFeed tail := by
      cases tail with
      | nil => exact Or.inl rfl
      | cons character others =>
        simpa [EndsInFeed, List.getLast?_append] using ends
    have tailFeeds : tail.count '\n' = count := by
      rw [List.count_append, List.count_eq_zero.2 single, List.count_cons_self] at feeds
      omega
    have tailSum := inductionHypothesis tailEnds tailFeeds
    have lineSum := size_withoutReturn line
    rw [List.append_assoc, List.cons_append, lines_append_feed single, List.take_succ_cons,
      returns_append_feed single, size_append, size_cons]
    simp only [bytesOfLines, List.foldr_cons] at tailSum ⊢
    have feedSize : Char.utf8Size '\n' = 1 := rfl
    omega

/-! ### Where a place is -/

/-- A place that is given by a line and the bytes read in it lies in a text, and the lines before
it are these. Lines count from one. -/
structure LiesAt (source : Text) (line column : Nat) (before : Text) : Prop where
  ends : EndsInFeed before
  line_eq : line = before.count '\n' + 1
  within : ∃ rest, source = before ++ rest ∧ column ≤ size (rest.takeWhile (· ≠ '\n'))

theorem LiesAt.add_le_size {source before : Text} {line column : Nat}
    (lies : LiesAt source line column before) : before.size + column ≤ source.size := by
  obtain ⟨rest, rfl, bound⟩ := lies.within
  have parts : rest.takeWhile (· ≠ '\n') ++ rest.dropWhile (· ≠ '\n') = rest :=
    List.takeWhile_append_dropWhile
  have sizes := congrArg size parts
  rw [size_append] at sizes ⊢
  omega

/-- Behind the last line feed of a text is its last line. -/
theorem exists_eq_append_lastLine (text : Text) :
    ∃ before, text = before ++ text.lastLine ∧ EndsInFeed before ∧ '\n' ∉ text.lastLine := by
  refine ⟨(text.reverse.dropWhile (· ≠ '\n')).reverse, ?_, ?_, fun member => ?_⟩
  · rw [lastLine, ← List.reverse_append, List.takeWhile_append_dropWhile, List.reverse_reverse]
  · rw [EndsInFeed, List.reverse_eq_nil_iff, List.getLast?_reverse]
    have stopped := List.head?_dropWhile_not (· ≠ '\n') text.reverse
    cases left : text.reverse.dropWhile (· ≠ '\n') with
    | nil => exact Or.inl rfl
    | cons character rest =>
      rw [left] at stopped
      simpa using stopped
  · have kept := List.all_eq_true.1 List.all_takeWhile '\n' (List.mem_reverse.1 member)
    simp at kept

/-- What begins within the first bytes begins in front of their count. -/
theorem size_lt_of_takeBytes {text front back : Text} {count : Nat} {character : Char}
    (taken : takeBytes text count = front ++ character :: back) : front.size < count := by
  induction text generalizing count front with
  | nil => simp [takeBytes] at taken
  | cons first rest inductionHypothesis =>
    rw [takeBytes] at taken
    split at taken
    · simp at taken
    · rename_i positive
      cases front with
      | nil => exact Nat.pos_of_ne_zero positive
      | cons head tail =>
        obtain ⟨rfl, later⟩ := List.cons.inj taken
        have bound := inductionHypothesis later
        rw [size_cons]
        omega

theorem le_size_takeBytes {text : Text} {count : Nat} (bound : count ≤ text.size) :
    count ≤ (takeBytes text count).size := by
  induction text generalizing count with
  | nil => exact bound
  | cons character rest inductionHypothesis =>
    rw [takeBytes]
    split
    · omega
    · rw [size_cons] at bound ⊢
      have later : count - character.utf8Size ≤
          (takeBytes rest (count - character.utf8Size)).size := inductionHypothesis (by omega)
      omega

end Text

/-- The line and the column of a fault lie in the source, and the bytes before the line and the
bytes of the column are those that were read. -/
theorem Json.Fault.exists_liesAt (source : Text) (fault : Json.Fault) :
    ∃ before, source.LiesAt (fault.line source) (fault.column source) before ∧
      before.size + fault.column source = fault.offset source := by
  obtain ⟨before, whole, ends, single⟩ := (fault.consumed source).exists_eq_append_lastLine
  have sizes := congrArg Text.size whole
  have read : fault.offset source ≤ (fault.consumed source).size :=
    Text.le_size_takeBytes (Nat.sub_le _ _)
  have behind : before.size ≤ fault.offset source := by
    rcases ends with rfl | last
    · exact Nat.zero_le _
    · -- The last line feed is a single byte, and it was read.
      obtain ⟨front, rfl⟩ := List.getLast?_eq_some_iff.1 last
      rw [List.append_assoc] at whole
      have bound := Text.size_lt_of_takeBytes whole
      rw [Text.size_append]
      exact bound
  have column : before.size + fault.column source = fault.offset source := by
    rw [column]
    rw [Text.size_append] at sizes
    omega
  refine ⟨before, ⟨ends, ?_, (fault.consumed source).lastLine ++
    source.dropBytes (fault.offset source), ?_, ?_⟩, column⟩
  · rw [line, whole, List.count_append, List.count_eq_zero.2 single]
  · rw [← List.append_assoc, ← whole]
    exact (Text.takeBytes_append_dropBytes _ _).symm
  · rw [List.takeWhile_append_of_pos fun character member => ?_, Text.size_append]
    · rw [Text.size_append] at sizes
      omega
    · exact decide_eq_true fun same => single (same ▸ member)

namespace Diagnostic

/-- The offset that a line and the bytes read in it name, where the lines before it are given. -/
def offsetBehind (source before : Text) (column : Nat) : Nat :=
  min (before.size + (column - 1)) source.size

theorem labelOffset_add_returns {source before : Text} {line column : Nat}
    (lies : source.LiesAt line column before) :
    labelOffset source line column + before.returns = offsetBehind source before column := by
  have bound := lies.add_le_size
  obtain ⟨rest, rfl, -⟩ := lies.within
  have sum := Text.bytesOfLines_add_returns lies.ends rest
  rw [labelOffset, lies.line_eq, Nat.add_sub_cancel, offsetBehind]
  rw [Text.bytesOfLines] at sum
  omega

/-- The label of a place in a file falls short of the offset that the place names by one byte for
every line before it that ends in a carriage return and a line feed, so it is right exactly when
there is none. A fault names a place in the file, and its diagnostic is labelled so. -/
theorem fault_label_short_by_returns (source : Text) :
    (∀ line column before, source.LiesAt line column before →
      labelOffset source line column + before.returns = offsetBehind source before column ∧
      (labelOffset source line column = offsetBehind source before column ↔
        ¬ ['\r', '\n'] <:+: before)) ∧
    ∀ fault : Json.Fault, ∃ before,
      source.LiesAt (fault.line source) (fault.column source) before ∧
      before.size + fault.column source = fault.offset source ∧
      (ofFault source fault).offset + before.returns =
        offsetBehind source before (fault.column source) := by
  refine ⟨fun line column before lies => ?_, fun fault => ?_⟩
  · have sum := labelOffset_add_returns lies
    refine ⟨sum, ?_⟩
    rw [← Text.returns_eq_zero_iff]
    omega
  · obtain ⟨before, lies, column⟩ := fault.exists_liesAt source
    exact ⟨before, lies, column, labelOffset_add_returns lies⟩

/-- Two of the three lines before a place have lost a byte more than was added for them. -/
theorem fault_label_behind_two_returns :
    let before : Text := "[\r\n\n1,\r\n".toList
    let source : Text := before ++ ['x']
    source.LiesAt 4 1 before ∧ labelOffset source 4 1 + 2 = offsetBehind source before 1 ∧
      labelOffset source 4 1 ≠ offsetBehind source before 1 := by
  intro before source
  have lies : source.LiesAt 4 1 before :=
    ⟨Or.inr (by decide +kernel), by decide +kernel, ['x'], rfl, by decide +kernel⟩
  obtain ⟨sum, -⟩ := (fault_label_short_by_returns source).1 4 1 before lies
  have twice : before.returns = 2 := by decide +kernel
  rw [twice] at sum
  refine ⟨lies, sum, ?_⟩
  omega

/-- Behind a carriage return and a line feed the label of an unknown word misses it by a byte. -/
theorem fault_label_behind_return :
    let before : Text := ['[', '\r', '\n']
    let source : Text := before ++ ['x', ']']
    ∃ fault, Json.read source = .error fault ∧
      source.LiesAt (fault.line source) (fault.column source) before ∧
      (ofFault source fault).offset = 2 ∧
      offsetBehind source before (fault.column source) = 3 := by
  intro before source
  refine ⟨⟨.expectedValue, 1⟩, rfl, ⟨Or.inr rfl, by decide +kernel, ['x', ']'], rfl, ?_⟩, ?_, ?_⟩
  · decide +kernel
  · decide +kernel
  · decide +kernel

end Diagnostic

end Stencil
