import Mathlib.Data.List.Forall2
import PipelineObserver.Http.Lines
/-!
A body of lines gives the same lines wherever it is cut into chunks: `splits_at_line_feeds`. What
counts is only what arrived without being used and what is still to arrive, put together.
-/
namespace PipelineObserver.Http

/-! ### Lines of a body -/

/-- The lines of a body: what stands between its line feeds, and what stands after the last of them
if it is not empty. -/
def linesOf (body : List UInt8) : List (List UInt8) :=
  let pieces := body.splitOn lineFeed
  pieces.dropLast.map withoutReturn ++ pieces.getLast?.toList.filter fun last => last ≠ []

/-- The bytes that spell a text in UTF-8. -/
def spelling (s : String) : List UInt8 := s.toUTF8.data.toList

/-- What is told of a line: its text, or that it spells none. -/
inductive Told (line : List UInt8) : Except Failure (Option String) → Prop
  | text (s : String) (h : spelling s = line) : Told line (.ok (some s))
  | malformed (detail : String) (h : ∀ s, spelling s ≠ line) :
      Told line (.error (.parseError detail))

theorem splitLine?_eq_none_iff {bytes : List UInt8} :
    splitLine? bytes = none ↔ lineFeed ∉ bytes := by
  simp [splitLine?]

theorem beq_lineFeed {piece : List UInt8} (h : lineFeed ∉ piece) :
    ∀ b ∈ piece, (b == lineFeed) = false := by
  intro b hb
  have hne : b ≠ lineFeed := fun heq => h (heq ▸ hb)
  simpa using hne

theorem splitLine?_of_piece {piece : List UInt8} (h : lineFeed ∉ piece) (after : List UInt8) :
    splitLine? (piece ++ lineFeed :: after) = some (withoutReturn piece, after) := by
  have hpiece : ∀ b ∈ piece, decide (b ≠ lineFeed) = true := by
    intro b hb
    simpa using beq_lineFeed h b hb
  have hfeed : (piece ++ lineFeed :: after).contains lineFeed = true := by simp
  rw [splitLine?, if_pos hfeed, List.takeWhile_append_of_pos hpiece,
    List.dropWhile_append_of_pos hpiece]
  simp

/-- A line that has arrived stays the first one when more arrives. -/
theorem splitLine?_append {bytes line after : List UInt8}
    (h : splitLine? bytes = some (line, after)) (more : List UInt8) :
    splitLine? (bytes ++ more) = some (line, after ++ more) := by
  by_cases hfeed : lineFeed ∈ bytes
  · obtain ⟨piece, rest, rfl, hpiece⟩ := List.eq_append_cons_of_mem hfeed
    rw [splitLine?_of_piece hpiece] at h
    cases h
    rw [List.append_assoc, List.cons_append]
    exact splitLine?_of_piece hpiece (after ++ more)
  · rw [splitLine?_eq_none_iff.mpr hfeed] at h
    cases h

theorem linesOf_of_piece {piece : List UInt8} (h : lineFeed ∉ piece) (after : List UInt8) :
    linesOf (piece ++ lineFeed :: after) = withoutReturn piece :: linesOf after := by
  have hpieces : (piece ++ lineFeed :: after).splitOn lineFeed = piece :: after.splitOn lineFeed :=
    List.splitOnP_append_cons_of_forall_mem (beq_lineFeed h) lineFeed (by simp) after
  have hmore : after.splitOn lineFeed ≠ [] := List.splitOnP_ne_nil _ after
  obtain ⟨first, more, hfirst⟩ := List.exists_cons_of_ne_nil hmore
  simp only [linesOf, hpieces, hfirst, List.dropLast_cons_cons, List.map_cons, List.cons_append,
    List.getLast?_cons_cons]

theorem linesOf_rest {rest : List UInt8} (h : lineFeed ∉ rest) :
    linesOf rest = if rest = [] then [] else [rest] := by
  have hpieces : rest.splitOn lineFeed = [rest] := List.splitOnP_eq_singleton (beq_lineFeed h)
  by_cases hnil : rest = []
  · simp [linesOf, hnil]
  · simp [linesOf, hpieces, hnil]

/-! ### Decoding -/

theorem ofUtf8?_eq_some_iff {bytes : List UInt8} {s : String} :
    Text.ofUtf8? bytes = some s ↔ spelling s = bytes := by
  unfold Text.ofUtf8? String.fromUTF8?
  constructor
  · intro h
    split at h
    · cases h
      rfl
    · cases h
  · rintro rfl
    have hbytes : (⟨(spelling s).toArray⟩ : ByteArray) = s.toByteArray := rfl
    simp only [hbytes]
    rw [dif_pos s.isValidUTF8]
    rfl

theorem told_decodeLine (line : List UInt8) : Told line ((decodeLine line).map some) := by
  unfold decodeLine
  cases htext : Text.ofUtf8? line with
  | some s => exact .text s (ofUtf8?_eq_some_iff.mp htext)
  | none =>
    refine .malformed _ fun s hs => ?_
    rw [ofUtf8?_eq_some_iff.mpr hs] at htext
    cases htext

namespace LineSplitter

/-! ### Reading -/

/-- The bytes that belong to no line yet, those that are still to arrive included. -/
def pending (s : LineSplitter) : List UInt8 := s.buffer ++ s.rest.chunks.flatten

theorem nextFrom_line {buffer line after : List UInt8} {chunks : List (List UInt8)}
    (h : splitLine? (buffer ++ chunks.flatten) = some (line, after)) :
    ∃ s, nextFrom buffer true chunks = ((decodeLine line).map some, s) ∧ s.pending = after ∧
      s.rest.complete = true := by
  induction chunks generalizing buffer with
  | nil =>
    rw [List.flatten_nil, List.append_nil] at h
    refine ⟨⟨after, ⟨[], true⟩⟩, ?_, List.append_nil after, rfl⟩
    simp only [nextFrom, h]
  | cons chunk chunks ih =>
    cases hbuffer : splitLine? buffer with
    | some found =>
      -- The line is there before the chunk arrives.
      obtain ⟨line', after'⟩ := found
      rw [splitLine?_append hbuffer] at h
      cases h
      refine ⟨⟨after', ⟨chunk :: chunks, true⟩⟩, ?_, rfl, rfl⟩
      simp only [nextFrom, hbuffer]
    | none =>
      -- The chunk goes into the buffer, and what is pending stays the same.
      rw [List.flatten_cons, ← List.append_assoc] at h
      obtain ⟨s, hnext, hs⟩ := ih h
      refine ⟨s, ?_, hs⟩
      simp only [nextFrom, hbuffer]
      exact hnext

theorem nextFrom_rest {buffer : List UInt8} {chunks : List (List UInt8)}
    (h : splitLine? (buffer ++ chunks.flatten) = none) :
    nextFrom buffer true chunks = atEnd (buffer ++ chunks.flatten) true := by
  induction chunks generalizing buffer with
  | nil =>
    rw [List.flatten_nil, List.append_nil] at h ⊢
    simp only [nextFrom, h]
  | cons chunk chunks ih =>
    have hbuffer : splitLine? buffer = none := by
      rw [splitLine?_eq_none_iff] at h ⊢
      intro hfeed
      exact h (List.mem_append_left _ hfeed)
    rw [List.flatten_cons, ← List.append_assoc] at h ⊢
    simp only [nextFrom, hbuffer]
    exact ih h

/-- What is told of the lines of a body. -/
def results (body : List UInt8) : List (Except Failure (Option String)) :=
  (linesOf body).map fun line => (decodeLine line).map some

/-- A call tells the first line, and leaves the other lines for later calls. -/
theorem next_eq {s : LineSplitter} (complete : s.rest.complete = true) :
    s.next.1 = (results s.pending).getD 0 (.ok none) ∧
      results s.next.2.pending = (results s.pending).tail ∧ s.next.2.rest.complete = true := by
  obtain ⟨buffer, chunks, _⟩ := s
  cases complete
  by_cases hfeed : lineFeed ∈ buffer ++ chunks.flatten
  · obtain ⟨piece, after, hpending, hpiece⟩ := List.eq_append_cons_of_mem hfeed
    have hsplit := splitLine?_of_piece hpiece after
    rw [← hpending] at hsplit
    obtain ⟨s, hnext, hafter, hcomplete⟩ := nextFrom_line hsplit
    have hresults : results (buffer ++ chunks.flatten) =
        (decodeLine (withoutReturn piece)).map some :: results after := by
      rw [results, hpending, linesOf_of_piece hpiece, List.map_cons, results]
    simp only [next, pending, hnext, hresults]
    exact ⟨rfl, congrArg results hafter, hcomplete⟩
  · -- Nothing ends a line any more: all that is left is the last line, or nothing.
    have hrest := nextFrom_rest (splitLine?_eq_none_iff.mpr hfeed)
    have hresults : results (buffer ++ chunks.flatten) =
        if buffer ++ chunks.flatten = [] then []
        else [(decodeLine (buffer ++ chunks.flatten)).map some] := by
      rw [results, linesOf_rest hfeed]
      split <;> rfl
    simp only [next, pending, hrest, hresults, atEnd, List.isEmpty_iff, ↓reduceIte]
    split
    · exact ⟨rfl, rfl, rfl⟩
    · exact ⟨rfl, rfl, rfl⟩

/-- What a call gives, after as many calls before it. -/
def pull (s : LineSplitter) : Nat → Except Failure (Option String)
  | 0 => s.next.1
  | k + 1 => s.next.2.pull k

theorem pull_eq {s : LineSplitter} (complete : s.rest.complete = true) (k : Nat) :
    s.pull k = (results s.pending).getD k (.ok none) := by
  induction k generalizing s with
  | zero => exact (next_eq complete).1
  | succ k ih =>
    obtain ⟨-, hrest, hcomplete⟩ := next_eq complete
    rw [pull, ih hcomplete, hrest]
    cases results s.pending with
    | nil => rfl
    | cons first more => rfl

end LineSplitter

/-- A body is split at its line feeds, in whatever chunks it arrives: each line is told as the text
that it spells, or as malformed if it spells none, and there is nothing after the last of them. -/
theorem splits_at_line_feeds (body : List UInt8) :
    ∃ told, List.Forall₂ Told (linesOf body) told ∧
      ∀ chunks, chunks.flatten = body → ∀ k,
        LineSplitter.pull { rest := ⟨chunks, true⟩ } k = told.getD k (.ok none) := by
  refine ⟨LineSplitter.results body, ?_, ?_⟩
  · rw [LineSplitter.results, List.forall₂_map_right_iff, List.forall₂_same]
    intro line _
    exact told_decodeLine line
  · rintro chunks rfl k
    exact LineSplitter.pull_eq rfl k

/-! A body that is cut between a carriage return and its line feed and within a character. One of
its lines is malformed, and the last one has no line feed. -/

def cutBody : List (List UInt8) :=
  [[97, 13], [10, 0xC3], [], [0xA9, 10, 0xFF], [10, 122, 13]]

theorem splits_at_line_feeds_cut :
    linesOf cutBody.flatten = [[97], [0xC3, 0xA9], [0xFF], [122, 13]] ∧
      spelling "é" = [0xC3, 0xA9] ∧
      ∃ told, List.Forall₂ Told [[97], [0xC3, 0xA9], [0xFF], [122, 13]] told ∧
        ∀ k, LineSplitter.pull { rest := ⟨cutBody, true⟩ } k = told.getD k (.ok none) ∧
          LineSplitter.pull { rest := ⟨[cutBody.flatten], true⟩ } k = told.getD k (.ok none) := by
  have hlines : linesOf cutBody.flatten = [[97], [0xC3, 0xA9], [0xFF], [122, 13]] := by
    decide +kernel
  obtain ⟨told, htold, hpull⟩ := splits_at_line_feeds cutBody.flatten
  rw [hlines] at htold
  exact ⟨hlines, by decide +kernel, told, htold,
    fun k => ⟨hpull cutBody rfl k, hpull [cutBody.flatten] (by simp) k⟩⟩

end PipelineObserver.Http
