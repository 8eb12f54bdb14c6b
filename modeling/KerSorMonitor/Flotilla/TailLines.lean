import KerSorMonitor.Lib.Loops
import KerSorMonitor.Scripts.Csv

/-!
# The last lines of a session log (`_tail_lines` in `flotilla/observer.py`)

The observer reads a log backwards in chunks, until it has seen more newlines than the lines that
it wants. The first line of what it has read may have lost its start; it is not among the last ones.

Result: `tailLines_eq`: the lines are those of a read of all the last bytes.
-/

namespace Flotilla

open Loops Scripts.Csv

namespace TailLines

/-- The file from `pos` on has been read, in chunks from the end. -/
structure Reading where
  pos : Nat
  chunks : List (List UInt8)
  newlines : Nat

/-- `b"".join(reversed(chunks))`. -/
def Reading.data (r : Reading) : List UInt8 := r.chunks.reverse.flatten

/-- How many bytes have been read. -/
def Reading.size (r : Reading) : Nat := r.chunks.flatten.length

/-- `chunk.count(b"\n")`. -/
def countNewlines (chunk : List UInt8) : Nat := chunk.count 10

/-- An iteration of the loop of `_tail_lines`, with chunks of `chunkBytes`. -/
def readChunk (chunkBytes : Nat) (content : List UInt8) (start n : Nat) (_ : Nat) (r : Reading) :
    Step Reading Reading :=
  if start < r.pos ∧ r.newlines ≤ n then
    let size := min chunkBytes (r.pos - start)
    let pos := r.pos - size
    let chunk := (content.drop pos).take size
    .next ⟨pos, r.chunks ++ [chunk], r.newlines + countNewlines chunk⟩
  else .done r

/-- The reads of `_tail_lines`, if `fuel` iterations are enough. -/
def readTail (chunkBytes : Nat) (content : List UInt8) (n maxBytes : Int) (fuel : Nat) :
    Option Reading :=
  if n ≤ 0 ∨ maxBytes ≤ 0 then some ⟨content.length, [], 0⟩
  else
    loop (readChunk chunkBytes content (content.length - maxBytes.toNat) n.toNat) fuel 0
      ⟨content.length, [], 0⟩

/-- `lines[-n:]` for a positive `n`. -/
def lastLines (n : Nat) (lines : List (List Char)) : List (List Char) :=
  lines.drop (lines.length - n)

/-- `_tail_lines`; `decode` is `bytes.decode(errors="replace")`. -/
def tailLines (decode : List UInt8 → List Char) (chunkBytes : Nat) (content : List UInt8)
    (n maxBytes : Int) (fuel : Nat) : Option (List (List Char)) :=
  if n ≤ 0 ∨ maxBytes ≤ 0 then some []
  else
    (readTail chunkBytes content n maxBytes fuel).map fun r =>
      lastLines n.toNat (splitLines (decode r.data) [])

/-- Bytes before a newline do not affect the text behind it. -/
def Resynchronises (decode : List UInt8 → List Char) : Prop :=
  ∀ before behind, ∃ text, decode (before ++ 10 :: behind) = text ++ '\n' :: decode behind

end TailLines

namespace TailLinesLemmas

open TailLines

/-! ## Reads -/

/-- What the loop keeps. -/
structure Inv (content : List UInt8) (start : Nat) (r : Reading) : Prop where
  bounds : start ≤ r.pos ∧ r.pos ≤ content.length
  data : r.data = content.drop r.pos
  size : r.size = content.length - r.pos
  newlines : r.newlines = countNewlines r.data

section
variable {chunkBytes : Nat} {content : List UInt8} {start n : Nat} {r r' : Reading}

theorem inv_start (h : start ≤ content.length) : Inv content start ⟨content.length, [], 0⟩ where
  bounds := ⟨h, Nat.le_refl _⟩
  data := List.drop_length.symm
  size := (Nat.sub_self _).symm
  newlines := rfl

/-- An iteration reads the chunk before what has been read. -/
theorem inv_readChunk {i : Nat} (h : Inv content start r)
    (hstep : readChunk chunkBytes content start n i r = .next r') : Inv content start r' := by
  unfold readChunk at hstep
  split at hstep
  case isFalse => cases hstep
  case isTrue hgoes =>
    cases hstep
    obtain ⟨hstart, hlength⟩ := h.bounds
    have hpos : r.pos - min chunkBytes (r.pos - start) + min chunkBytes (r.pos - start) = r.pos := by
      omega
    have hchunk : ((content.drop (r.pos - min chunkBytes (r.pos - start))).take
        (min chunkBytes (r.pos - start))) ++ r.data
          = content.drop (r.pos - min chunkBytes (r.pos - start)) := by
      have hrest : content.drop r.pos = (content.drop (r.pos - min chunkBytes (r.pos - start))).drop
          (min chunkBytes (r.pos - start)) := by
        rw [List.drop_drop, hpos]
      rw [h.data, hrest, List.take_append_drop]
    have hdata (chunk : List UInt8) (pos k : Nat) :
        (⟨pos, r.chunks ++ [chunk], k⟩ : Reading).data = chunk ++ r.data := by
      unfold Reading.data
      rw [List.reverse_append]
      rfl
    refine ⟨⟨?_, ?_⟩, ?_, ?_, ?_⟩
    · show start ≤ r.pos - min chunkBytes (r.pos - start)
      omega
    · show r.pos - min chunkBytes (r.pos - start) ≤ content.length
      omega
    · rw [hdata, hchunk]
    · have hsize : r.size = r.chunks.flatten.length := rfl
      show (r.chunks ++ [_]).flatten.length = _
      rw [List.flatten_append, List.length_append, ← hsize, h.size, List.flatten_singleton,
        List.length_take, List.length_drop]
      dsimp only
      omega
    · have hcount (chunk : List UInt8) :
          r.newlines + countNewlines chunk = countNewlines (chunk ++ r.data) := by
        rw [h.newlines, countNewlines, countNewlines, countNewlines, List.count_append, Nat.add_comm]
      rw [hdata]
      exact hcount _

/-- With chunks that are not empty the loop ends, at the start or behind more than `n` newlines. -/
theorem loop_readChunk (hchunk : 0 < chunkBytes) (hstart : start ≤ content.length) {fuel : Nat}
    (hfuel : content.length < fuel) :
    ∃ r, loop (readChunk chunkBytes content start n) fuel 0 ⟨content.length, [], 0⟩ = some r ∧
      Inv content start r ∧ (r.pos = start ∨ n < r.newlines) := by
  have hlower (i : Nat) (r r' : Reading) (h : Inv content start r)
      (hstep : readChunk chunkBytes content start n i r = .next r') :
      Inv content start r' ∧ r'.pos < r.pos := by
    refine ⟨inv_readChunk h hstep, ?_⟩
    unfold readChunk at hstep
    split at hstep
    · next hgoes =>
      cases hstep
      show r.pos - min chunkBytes (r.pos - start) < r.pos
      omega
    · cases hstep
  have hends : ∃ r, loop (readChunk chunkBytes content start n) fuel 0 ⟨content.length, [], 0⟩
      = some r :=
    loop_ends (fun _ r => Inv content start r) Reading.pos hlower (inv_start hstart) hfuel
  obtain ⟨r, hr⟩ := hends
  obtain ⟨j, s, hs, hdone⟩ := done_of_loop hr .start
  have hinv : Inv content start s := inv_of_reaches (fun _ r => Inv content start r)
    (inv_start hstart) (fun i r r' h hstep => inv_readChunk h hstep) hs
  refine ⟨r, hr, ?_⟩
  unfold readChunk at hdone
  split at hdone
  · cases hdone
  · next hstop =>
    cases hdone
    refine ⟨hinv, ?_⟩
    have := hinv.bounds.1
    omega

end

/-! ## Lines -/

section
variable {decode : List UInt8 → List Char}

theorem lastLines_append {n : Nat} (front lines : List (List Char)) (h : n ≤ lines.length) :
    lastLines n (front ++ lines) = lastLines n lines := by
  unfold lastLines
  rw [List.length_append, List.drop_append, List.drop_of_length_le (by omega), List.nil_append]
  congr 1
  omega

/-- The lines of a text with a newline, split at it. -/
theorem splitLines_decode (hdecode : Resynchronises decode) (before behind : List UInt8) :
    ∃ front, front ≠ [] ∧ splitLines (decode (before ++ 10 :: behind)) []
      = front ++ splitLines (decode behind) [] := by
  obtain ⟨text, htext⟩ := hdecode before behind
  refine ⟨splitLines (text ++ ['\n']) [], splitLines_ne_nil (Or.inl (by simp)), ?_⟩
  rw [htext, splitLines_newline]

/-- There are as many lines as newlines. -/
theorem newlines_le_lines (hdecode : Resynchronises decode) (data : List UInt8) :
    countNewlines data ≤ (splitLines (decode data) []).length := by
  generalize hk : countNewlines data = k
  induction k generalizing data with
  | zero => exact Nat.zero_le _
  | succ k ih =>
    have hmem : (10 : UInt8) ∈ data := List.count_pos_iff.mp (by unfold countNewlines at hk; omega)
    obtain ⟨before, behind, rfl, hbefore⟩ := List.eq_append_cons_of_mem hmem
    have hcount : countNewlines behind = k := by
      unfold countNewlines at hk ⊢
      rw [List.count_append, List.count_eq_zero.mpr hbefore, List.count_cons_self] at hk
      omega
    obtain ⟨front, hfront, hlines⟩ := splitLines_decode hdecode before behind
    rw [hlines, List.length_append]
    have := List.length_pos_iff.mpr hfront
    have := ih behind hcount
    omega

/-- The last lines are in the data, if it has more newlines. -/
theorem lastLines_suffix (hdecode : Resynchronises decode) {n : Nat} (front data : List UInt8)
    (h : n < countNewlines data) :
    lastLines n (splitLines (decode (front ++ data)) [])
      = lastLines n (splitLines (decode data) []) := by
  have hmem : (10 : UInt8) ∈ data := List.count_pos_iff.mp (Nat.lt_of_le_of_lt (Nat.zero_le _) h)
  obtain ⟨before, behind, rfl, hbefore⟩ := List.eq_append_cons_of_mem hmem
  have hcount : n ≤ countNewlines behind := by
    unfold countNewlines at h ⊢
    rw [List.count_append, List.count_eq_zero.mpr hbefore, List.count_cons_self] at h
    omega
  have henough := Nat.le_trans hcount (newlines_le_lines hdecode behind)
  obtain ⟨whole, -, hwhole⟩ := splitLines_decode hdecode (front ++ before) behind
  obtain ⟨part, -, hpart⟩ := splitLines_decode hdecode before behind
  rw [← List.append_assoc, hwhole, hpart, lastLines_append _ _ henough, lastLines_append _ _ henough]

end

end TailLinesLemmas

open TailLines TailLinesLemmas

/-- With chunks of any size, `_tail_lines` reads at most `max_bytes` and returns the last `n` lines
of the last `max_bytes` bytes. -/
theorem tailLines_eq (decode : List UInt8 → List Char) (hdecode : Resynchronises decode)
    (chunkBytes : Nat) (hchunk : 0 < chunkBytes) (content : List UInt8) (n maxBytes : Int)
    (hn : 1 ≤ n) (hmax : 1 ≤ maxBytes) (fuel : Nat) (hfuel : content.length < fuel) :
    (∃ r, readTail chunkBytes content n maxBytes fuel = some r ∧ r.size ≤ maxBytes) ∧
      tailLines decode chunkBytes content n maxBytes fuel
        = some (lastLines n.toNat
            (splitLines (decode (content.drop (content.length - maxBytes.toNat))) [])) := by
  have hargs : ¬ (n ≤ 0 ∨ maxBytes ≤ 0) := by omega
  obtain ⟨r, hloop, hinv, hend⟩ := @loop_readChunk chunkBytes content
    (content.length - maxBytes.toNat) n.toNat hchunk (Nat.sub_le _ _) fuel hfuel
  have hread : readTail chunkBytes content n maxBytes fuel = some r := by
    rw [readTail, if_neg hargs]
    exact hloop
  have hbounds := hinv.bounds
  refine ⟨⟨r, hread, ?_⟩, ?_⟩
  · rw [hinv.size]
    omega
  · rw [tailLines, if_neg hargs, hread, Option.map_some]
    congr 1
    rcases hend with hpos | hnewlines
    · rw [hinv.data, hpos]
    · have hsplit : content.drop (content.length - maxBytes.toNat)
          = (content.drop (content.length - maxBytes.toNat)).take
              (r.pos - (content.length - maxBytes.toNat)) ++ r.data := by
        have hrest : r.data = (content.drop (content.length - maxBytes.toNat)).drop
            (r.pos - (content.length - maxBytes.toNat)) := by
          rw [hinv.data, List.drop_drop]
          congr 1
          omega
        rw [hrest, List.take_append_drop]
      rw [hsplit, lastLines_suffix hdecode _ _ (hinv.newlines ▸ hnewlines)]

/-- Bytes of ASCII are characters, and others are replaced. -/
def decodeAscii (bytes : List UInt8) : List Char :=
  bytes.map fun b => if b < 128 then Char.ofNat b.toNat else '\uFFFD'

/-- The last two lines of `a\nb\nc\n`, with chunks of two bytes. -/
theorem tailLines_eq_ascii :
    (∃ r, readTail 2 [97, 10, 98, 10, 99, 10] 2 5 10 = some r ∧ (r.size : Int) ≤ 5) ∧
    tailLines decodeAscii 2 [97, 10, 98, 10, 99, 10] 2 5 10
      = some (lastLines 2 (splitLines (decodeAscii [10, 98, 10, 99, 10]) [])) := by
  have hdecode : Resynchronises decodeAscii := fun before behind =>
    ⟨decodeAscii before, by unfold decodeAscii; rw [List.map_append]; rfl⟩
  exact tailLines_eq decodeAscii hdecode 2 (by decide) [97, 10, 98, 10, 99, 10] 2 5 (by decide)
    (by decide) 10 (by decide)

end Flotilla
