import VvClient.Lib.Prog
import VvClient.Lib.Utf8

/-! The writer that hands bytes on as text: it collects them in a buffer, and passes on what is whole
characters. Indices are checked, so that a run that leaves the buffer is a panic. -/
namespace VvClient

open Prog

/-- `BUF_SIZE` -/
def bufSize : ℕ := 4096

/-- How a method ends without a result. -/
inductive WriteStop
  /-- the `io::Error` for a formatter that refuses a text -/
  | fmtError
  /-- an error of `serde_json` itself -/
  | json
  /-- `write_all` was told that nothing was written -/
  | writeZero
  | panic
  /-- a loop that has taken more turns than it was given -/
  | spent
  deriving DecidableEq

/-- A `Formatter`: the bytes of every text that was passed to `write_str`, and which it accepts. -/
structure Formatter where
  written : List (List UInt8)
  answers : ℕ → Bool

/-- `[u8; BUF_SIZE]` -/
structure Buf where
  bytes : List UInt8
  size : bytes.length = bufSize

namespace Buf

def zero : Buf := ⟨List.replicate bufSize 0,List.length_replicate⟩

/-- `&buf[start..stop]` -/
def slice (b : Buf) (start stop : ℕ) : Option (List UInt8) :=
  if start ≤ stop ∧ stop ≤ bufSize then some ((b.bytes.drop start).take (stop-start)) else none

/-- `buf[start..start+src.len()].copy_from_slice(src)` -/
def copyFromSlice (b : Buf) (start : ℕ) (src : List UInt8) : Option Buf :=
  if h : start + src.length ≤ bufSize then
    some ⟨b.bytes.take start ++ src ++ b.bytes.drop (start + src.length),by
      have := b.size
      simp only [List.length_append, List.length_take, List.length_drop]
      omega⟩
  else none

/-- `buf.copy_within(start..stop, 0)` -/
def copyWithin (b : Buf) (start stop : ℕ) : Option Buf :=
  (b.slice start stop).bind (b.copyFromSlice 0)

end Buf

structure FmtWriter where
  f : Formatter
  buf : Buf
  len : ℕ

namespace FmtWriter

def new (f : Formatter) : FmtWriter := ⟨f,.zero,0⟩

/-- What a check against the bounds leaves. -/
def orPanic {α : Type} (o : Option α) : Prog FmtWriter WriteStop α :=
  ofExcept (match o with
    | some a => .ok a
    | none => .error .panic)

/-- A subtraction of `usize` -/
def checkedSub (a b : ℕ) : Option ℕ := if b ≤ a then some (a-b) else none

/-- `f.write_str` with its error mapped -/
def writeStr (s : List UInt8) : Prog FmtWriter WriteStop Unit := ⟨fun w =>
  (if w.f.answers w.f.written.length then .ok () else .error .fmtError,
    { w with f := { w.f with written := w.f.written ++ [s] } })⟩

/-- The loop of `flush_buf`, which returns `start`. -/
def flushLoop : ℕ → ℕ → Prog FmtWriter WriteStop ℕ
  | 0,_ => fail .spent
  | fuel+1,start => do
    let w ← get
    if start < w.len then
      let bytes ← orPanic (w.buf.slice start w.len)
      match Utf8.fromUtf8 bytes with
      | .ok s =>
        writeStr s
        flushLoop fuel w.len
      | .error valid =>
        if valid = 0 then pure start
        else
          let s ← orPanic (w.buf.slice start (start+valid))
          writeStr s
          flushLoop fuel (start+valid)
    else pure start

def flushBuf (fuel : ℕ) : Prog FmtWriter WriteStop Unit := do
  let start ← flushLoop fuel 0
  if 0 < start then
    let w ← get
    let rem ← orPanic (checkedSub w.len start)
    if 0 < rem then
      let buf ← orPanic (w.buf.copyWithin start w.len)
      modify fun w => { w with buf := buf }
    modify fun w => { w with len := rem }
  else pure ()

/-- The loop of `write`. The space is computed before a flush that may make more of it. -/
def writeLoop (turns : ℕ) : ℕ → ℕ → List UInt8 → Prog FmtWriter WriteStop ℕ
  | 0,_,_ => fail .spent
  | fuel+1,wrote,bytes =>
    if bytes = [] then pure wrote
    else do
      let space ← orPanic (checkedSub bufSize (← get).len)
      if space = 0 then flushBuf turns
      let toCopy := min space bytes.length
      let w ← get
      let buf ← orPanic (w.buf.copyFromSlice w.len (bytes.take toCopy))
      modify fun w => { w with buf := buf, len := w.len + toCopy }
      if bufSize/2 ≤ (← get).len then flushBuf turns
      writeLoop turns fuel (wrote+toCopy) (bytes.drop toCopy)

def write (fuel : ℕ) (bytes : List UInt8) : Prog FmtWriter WriteStop ℕ := writeLoop fuel fuel 0 bytes

def flush (fuel : ℕ) : Prog FmtWriter WriteStop Unit := flushBuf fuel

/-- The bytes that wait in the buffer. -/
def pending (w : FmtWriter) : List UInt8 := w.buf.bytes.take w.len

lemma slice_eq {b : Buf} {start stop : ℕ} (h : start ≤ stop) (hs : stop ≤ bufSize) :
    b.slice start stop = some ((b.bytes.take stop).drop start) := by
  rw [Buf.slice, if_pos ⟨h,hs⟩, List.drop_take]

lemma run_slice {w : FmtWriter} {start stop : ℕ} (h : start ≤ stop) (hs : stop ≤ bufSize)
    {β : Type} (k : List UInt8 → Prog FmtWriter WriteStop β) :
    (orPanic (w.buf.slice start stop) >>= k).run w =
      (k ((w.buf.bytes.take stop).drop start)).run w := by
  rw [slice_eq h hs]
  rfl

/-- The writer when these texts were passed on. -/
def tells (w : FmtWriter) (ss : List (List UInt8)) : FmtWriter :=
  { w with f := { w.f with written := w.f.written ++ ss } }

lemma run_writeStr {w : FmtWriter} (ha : ∀ n, w.f.answers n = true) (s : List UInt8) {β : Type}
    (k : Unit → Prog FmtWriter WriteStop β) :
    (writeStr s >>= k).run w = (k ()).run (w.tells [s]) := by
  refine run_bind_ok ?_
  simp only [writeStr, ha, if_true]
  rfl

/-- The text that a flush passes on: nothing, or everything up to a cut character. -/
def passed (bytes : List UInt8) : List (List UInt8) :=
  if Utf8.decode bytes = [] then [] else [Utf8.encode (Utf8.decode bytes)]

lemma pending_length {w : FmtWriter} (hlen : w.len ≤ bufSize) : w.pending.length = w.len := by
  rw [pending, List.length_take, w.buf.size, Nat.min_eq_left hlen]

/-- The loop ends where nothing is left. -/
lemma flushLoop_done (w : FmtWriter) (fuel : ℕ) {start : ℕ} (h : w.len ≤ start) :
    (flushLoop (fuel+1) start).run w = (.ok start,w) := by
  rw [flushLoop, run_get_bind, if_neg (Nat.not_lt.mpr h)]
  rfl

/-- The loop ends where nothing whole is left. -/
lemma flushLoop_cut {w : FmtWriter} (hlen : w.len ≤ bufSize) (fuel : ℕ) {start : ℕ} (hs : start ≤ w.len)
    (h : Utf8.first (w.pending.drop start) = none) :
    (flushLoop (fuel+1) start).run w = (.ok start,w) := by
  rcases Nat.eq_or_lt_of_le hs with rfl | hlt
  · exact flushLoop_done w fuel (Nat.le_refl _)
  · have hne : w.pending.drop start ≠ [] := by
      rw [ne_eq, List.drop_eq_nil_iff, pending_length hlen]
      omega
    have hu : Utf8.fromUtf8 ((w.buf.bytes.take w.len).drop start) = .error 0 := by
      change Utf8.fromUtf8 (w.pending.drop start) = .error 0
      rw [Utf8.fromUtf8, Utf8.rest_of_first_none h, if_neg hne, Nat.sub_self]
    rw [flushLoop, run_get_bind, if_pos hlt, run_slice hs hlen]
    simp only [hu]
    rfl

/-- The loop passes on the longest text, and returns its length. -/
lemma flushLoop_run {w : FmtWriter} (ha : ∀ n, w.f.answers n = true) (hlen : w.len ≤ bufSize)
    (fuel : ℕ) : (flushLoop (fuel+2) 0).run w =
      (.ok (w.len - (Utf8.rest w.pending).length),w.tells (passed w.pending)) := by
  have hplen := pending_length hlen
  have hlong := Utf8.length_decode w.pending
  obtain ⟨htake,hdrop⟩ := Utf8.take_decode w.pending
  rw [hplen] at hlong htake hdrop
  by_cases hd : Utf8.decode w.pending = []
  · -- nothing whole is there
    have hrest : Utf8.rest w.pending = w.pending := by
      have heq := Utf8.encode_decode w.pending
      rwa [hd] at heq
    rw [flushLoop_cut hlen _ (Nat.zero_le _) (by rw [List.drop_zero, ← hrest]; exact Utf8.first_rest _),
      passed, if_pos hd, hrest, hplen, Nat.sub_self, tells, List.append_nil]
  · have hpos : 0 < w.len - (Utf8.rest w.pending).length := by
      rw [← hlong]
      exact List.length_pos_iff.mpr fun h => hd (Utf8.encode_eq_nil h)
    have hlt : 0 < w.len := by omega
    have hcut : Utf8.first (w.pending.drop (w.len - (Utf8.rest w.pending).length)) = none := by
      rw [hdrop]
      exact Utf8.first_rest _
    have hend := flushLoop_cut (w := w.tells [Utf8.encode (Utf8.decode w.pending)]) hlen fuel
      (Nat.sub_le _ _) hcut
    rw [passed, if_neg hd, flushLoop, run_get_bind, if_pos hlt, run_slice (Nat.zero_le _) hlen,
      List.drop_zero]
    by_cases hr : Utf8.rest w.pending = []
    · have hu : Utf8.fromUtf8 (w.buf.bytes.take w.len) = .ok w.pending := by
        change Utf8.fromUtf8 w.pending = _
        rw [Utf8.fromUtf8, if_pos hr]
      have htext : Utf8.encode (Utf8.decode w.pending) = w.pending := by
        have heq := Utf8.encode_decode w.pending
        rwa [hr, List.append_nil] at heq
      simp only [hu]
      rw [run_writeStr ha, htext, hr]
      exact flushLoop_done (w.tells [w.pending]) fuel (Nat.le_refl _)
    · have hu : Utf8.fromUtf8 (w.buf.bytes.take w.len) =
          .error (w.len - (Utf8.rest w.pending).length) := by
        change Utf8.fromUtf8 w.pending = _
        rw [Utf8.fromUtf8, if_neg hr, hplen]
      have hslice : (w.buf.bytes.take (0 + (w.len - (Utf8.rest w.pending).length))).drop 0 =
          Utf8.encode (Utf8.decode w.pending) := by
        rw [List.drop_zero, Nat.zero_add, ← htake, pending, List.take_take,
          Nat.min_eq_left (Nat.sub_le _ _)]
      simp only [hu]
      rw [if_neg (Nat.ne_of_gt hpos), run_slice (Nat.zero_le _) (by omega), hslice, run_writeStr ha,
        Nat.zero_add]
      exact hend

/-- After a flush, what waits is the beginning of a character. -/
structure Flushed (w w' : FmtWriter) : Prop where
  f : w'.f = (w.tells (passed w.pending)).f
  pending : w'.pending = Utf8.rest w.pending
  len : w'.len = (Utf8.rest w.pending).length

/-- A copy that stays inside the buffer stands behind what was there. -/
lemma copyFromSlice_eq (b : Buf) (start : ℕ) (src : List UInt8)
    (h : start + src.length ≤ bufSize) :
    ∃ b', b.copyFromSlice start src = some b' ∧
      b'.bytes.take (start + src.length) = b.bytes.take start ++ src := by
  refine ⟨_,dif_pos h,?_⟩
  have hsize := b.size
  have hlen : (b.bytes.take start ++ src).length = start + src.length := by
    rw [List.length_append, List.length_take]
    omega
  dsimp only
  rw [← hlen]
  exact List.take_left

/-- The bytes behind `start` are moved to the front. -/
lemma copyWithin_eq {w : FmtWriter} (hlen : w.len ≤ bufSize) {start : ℕ} (hs : start ≤ w.len) :
    ∃ b', w.buf.copyWithin start w.len = some b' ∧
      b'.bytes.take (w.len - start) = w.pending.drop start := by
  have hplen : (w.pending.drop start).length = w.len - start := by
    rw [List.length_drop, pending_length hlen]
  obtain ⟨b',hb,htake⟩ := copyFromSlice_eq w.buf 0 (w.pending.drop start) (by omega)
  rw [Nat.zero_add, hplen, List.take_zero, List.nil_append] at htake
  refine ⟨b',?_,htake⟩
  rw [Buf.copyWithin, slice_eq hs hlen]
  exact hb

lemma flushBuf_run {w : FmtWriter} (ha : ∀ n, w.f.answers n = true) (hlen : w.len ≤ bufSize)
    (fuel : ℕ) : ∃ w', (flushBuf (fuel+2)).run w = (.ok (),w') ∧ Flushed w w' := by
  have hrest := Utf8.length_rest_le w.pending
  have hplen := pending_length hlen
  have hloop := flushLoop_run ha hlen fuel
  obtain ⟨htake,hdrop⟩ := Utf8.take_decode w.pending
  rw [hplen] at hrest hdrop htake
  have hback : w.len - (w.len - (Utf8.rest w.pending).length) = (Utf8.rest w.pending).length :=
    Nat.sub_sub_self hrest
  rw [flushBuf, run_bind_ok hloop]
  by_cases hpos : 0 < w.len - (Utf8.rest w.pending).length
  · have hsub : checkedSub w.len (w.len - (Utf8.rest w.pending).length) =
        some (Utf8.rest w.pending).length := by
      rw [checkedSub, if_pos (Nat.sub_le _ _), hback]
    obtain ⟨b',hb,hb'⟩ := copyWithin_eq hlen (Nat.sub_le w.len (Utf8.rest w.pending).length)
    rw [hback, hdrop] at hb'
    by_cases hrem : 0 < (Utf8.rest w.pending).length
    · refine ⟨⟨(w.tells (passed w.pending)).f,b',(Utf8.rest w.pending).length⟩,?_,rfl,hb',rfl⟩
      simp only [if_pos hpos, run_get_bind, tells, hsub, orPanic, run_ok_bind, if_pos hrem, hb]
      rfl
    · refine ⟨⟨(w.tells (passed w.pending)).f,w.buf,(Utf8.rest w.pending).length⟩,?_,rfl,?_,rfl⟩
      · simp only [if_pos hpos, run_get_bind, tells, hsub, orPanic, run_ok_bind, if_neg hrem]
        rfl
      · have hnil : Utf8.rest w.pending = [] := List.eq_nil_of_length_eq_zero (Nat.eq_zero_of_not_pos hrem)
        rw [hnil]
        rfl
  · -- nothing was passed on
    have hall : (Utf8.rest w.pending).length = w.len := by omega
    rw [hall, Nat.sub_self, List.drop_zero] at hdrop
    refine ⟨w.tells (passed w.pending),?_,rfl,hdrop,hall.symm⟩
    simp only [if_neg hpos]
    rfl

/-- The formatter has got the texts `ss`, and with what waits in the buffer they are the input. -/
structure Held (base : Formatter) (w : FmtWriter) (input : List UInt8) (ss : List (List UInt8)) :
    Prop where
  f : w.f = { base with written := base.written ++ ss }
  kept : ss.flatten ++ w.pending = input
  valid : ∀ s ∈ ss, Utf8.Valid s
  len : w.len ≤ bufSize

namespace Held

variable {base : Formatter} {w : FmtWriter} {input : List UInt8} {ss : List (List UInt8)}

lemma answers (h : Held base w input ss) (ha : ∀ n, base.answers n = true) :
    ∀ n, w.f.answers n = true := by
  rw [h.f]
  exact ha

lemma new (base : Formatter) : Held base (new base) [] [] :=
  ⟨by simp [FmtWriter.new],rfl,by simp,Nat.zero_le _⟩

/-- A flush passes on what is whole. At most three bytes wait for the rest of their character. -/
lemma flush (h : Held base w input ss) (ha : ∀ n, base.answers n = true) {tail : List UInt8}
    (ht : Utf8.Valid (input ++ tail)) (fuel : ℕ) : ∃ w' ss', (flushBuf (fuel+2)).run w = (.ok (),w') ∧
      Held base w' input ss' ∧ w'.len ≤ 3 ∧ (tail = [] → w'.len = 0) := by
  obtain ⟨w',hrun,hflushed⟩ := flushBuf_run (h.answers ha) h.len fuel
  have hpassed : (passed w.pending).flatten = Utf8.encode (Utf8.decode w.pending) := by
    unfold passed
    split_ifs with hd
    · rw [hd]
      rfl
    · simp
  have hkept : (ss ++ passed w.pending).flatten ++ w'.pending = input := by
    rw [hflushed.pending, List.flatten_append, hpassed, List.append_assoc, Utf8.encode_decode, h.kept]
  have hvalid : ∀ s ∈ ss ++ passed w.pending, Utf8.Valid s := by
    intro s hs
    rcases List.mem_append.mp hs with hs | hs
    · exact h.valid s hs
    · unfold passed at hs
      split_ifs at hs
      · cases hs
      · rw [List.mem_singleton.mp hs]
        exact ⟨_,rfl⟩
  have hcut : Utf8.Valid (Utf8.rest w.pending ++ tail) := by
    rw [← hkept, List.append_assoc, hflushed.pending] at ht
    exact (Utf8.valid_flatten hvalid).of_append ht
  have hshort := Utf8.length_of_first_none hcut (Utf8.first_rest _)
  refine ⟨w',_,hrun,⟨?_,hkept,hvalid,?_⟩,hflushed.len ▸ hshort,?_⟩
  · rw [hflushed.f, tells, h.f, List.append_assoc]
  · rw [hflushed.len, bufSize]
    omega
  · rintro rfl
    rw [List.append_nil] at hcut
    rw [hflushed.len, hcut.eq_nil (Utf8.first_rest _)]
    rfl

/-- Bytes that fit are copied behind those that wait. -/
lemma copy (h : Held base w input ss) {src : List UInt8} (hfits : w.len + src.length ≤ bufSize) :
    ∃ b', w.buf.copyFromSlice w.len src = some b' ∧
      Held base ⟨w.f,b',w.len + src.length⟩ (input ++ src) ss := by
  obtain ⟨b',hb,htake⟩ := copyFromSlice_eq w.buf w.len src hfits
  refine ⟨b',hb,h.f,?_,h.valid,hfits⟩
  rw [pending, htake, ← h.kept, List.append_assoc]
  rfl

/-- A `write` takes all of its bytes, and leaves room in the buffer. -/
lemma writeLoop (ha : ∀ n, base.answers n = true) (turns n wrote : ℕ) {bytes tail : List UInt8}
    (hn : bytes.length ≤ n) (h : Held base w input ss) (hlen : w.len < bufSize/2)
    (ht : Utf8.Valid (input ++ bytes ++ tail)) : ∃ w' ss',
      (FmtWriter.writeLoop (turns+2) (n+1) wrote bytes).run w = (.ok (wrote + bytes.length),w') ∧
      Held base w' (input ++ bytes) ss' ∧ w'.len < bufSize/2 := by
  induction n generalizing w wrote bytes input ss with
  | zero =>
    obtain rfl : bytes = [] := List.eq_nil_of_length_eq_zero (Nat.le_zero.mp hn)
    exact ⟨w,ss,rfl,(List.append_nil input).symm ▸ h,hlen⟩
  | succ n ih =>
    by_cases hb : bytes = []
    · subst hb
      exact ⟨w,ss,rfl,(List.append_nil input).symm ▸ h,hlen⟩
    have hsub : checkedSub bufSize w.len = some (bufSize - w.len) := by rw [checkedSub, if_pos h.len]
    have hspace : bufSize - w.len ≠ 0 := by
      simp only [bufSize] at hlen ⊢
      omega
    have hbpos := List.length_pos_iff.mpr hb
    set toCopy := min (bufSize - w.len) bytes.length with hcopy
    have htake : (bytes.take toCopy).length = toCopy := by
      rw [List.length_take]
      omega
    have hcat : bytes.take toCopy ++ bytes.drop toCopy = bytes := List.take_append_drop _ _
    have hroom : w.len + (bytes.take toCopy).length ≤ bufSize := by omega
    obtain ⟨b',hbuf,hheld⟩ := h.copy hroom
    rw [htake] at hheld
    have hvalid : Utf8.Valid (input ++ bytes.take toCopy ++ (bytes.drop toCopy ++ tail)) := by
      rw [List.append_assoc, ← List.append_assoc (bytes.take toCopy), hcat, ← List.append_assoc]
      exact ht
    have hstart : (FmtWriter.writeLoop (turns+2) (n+1+1) wrote bytes).run w = (do
        if bufSize/2 ≤ w.len + toCopy then flushBuf (turns+2)
        FmtWriter.writeLoop (turns+2) (n+1) (wrote+toCopy) (bytes.drop toCopy)).run
          ⟨w.f,b',w.len + toCopy⟩ := by
      rw [FmtWriter.writeLoop, if_neg hb]
      simp only [run_get_bind, hsub, orPanic, run_ok_bind, if_neg hspace, ← hcopy, hbuf]
      rfl
    have hrest : ∀ {w₂ ss₂}, Held base w₂ (input ++ bytes.take toCopy) ss₂ → w₂.len < bufSize/2 →
        ∃ w' ss', (FmtWriter.writeLoop (turns+2) (n+1) (wrote+toCopy) (bytes.drop toCopy)).run w₂ =
            (.ok (wrote + bytes.length),w') ∧ Held base w' (input ++ bytes) ss' ∧ w'.len < bufSize/2 := by
      intro w₂ ss₂ h₂ hlen₂
      have hdrop : (bytes.drop toCopy).length = bytes.length - toCopy := List.length_drop
      have hless : (bytes.drop toCopy).length ≤ n := by omega
      have hloop := ih (wrote+toCopy) hless h₂ hlen₂ (by rw [List.append_assoc]; exact hvalid)
      rw [List.append_assoc, hcat, hdrop, Nat.add_assoc,
        Nat.add_sub_cancel' (Nat.min_le_right (bufSize - w.len) bytes.length)] at hloop
      exact hloop
    rw [hstart]
    by_cases hhalf : bufSize/2 ≤ w.len + toCopy
    · obtain ⟨w₂,ss₂,hflush,h₂,hthree,-⟩ := hheld.flush ha hvalid turns
      rw [if_pos hhalf, run_bind_ok hflush]
      refine hrest h₂ ?_
      simp only [bufSize]
      omega
    · rw [if_neg hhalf]
      exact hrest hheld (Nat.not_le.mp hhalf)

lemma write (h : Held base w input ss) (ha : ∀ n, base.answers n = true) (hlen : w.len < bufSize/2)
    {fuel : ℕ} {bytes tail : List UInt8} (hf : bytes.length + 2 ≤ fuel)
    (ht : Utf8.Valid (input ++ bytes ++ tail)) : ∃ w' ss',
      (FmtWriter.write fuel bytes).run w = (.ok bytes.length,w') ∧
      Held base w' (input ++ bytes) ss' ∧ w'.len < bufSize/2 := by
  obtain ⟨turns,rfl⟩ := Nat.exists_eq_add_of_le' (Nat.le_trans (Nat.le_add_left 2 _) hf)
  have hn : bytes.length ≤ turns + 1 := by omega
  have hloop := h.writeLoop ha turns (turns+1) 0 hn hlen ht
  rwa [Nat.zero_add] at hloop

/-- After the last flush of a whole text nothing waits. -/
lemma finish (h : Held base w input ss) (ha : ∀ n, base.answers n = true) (ht : Utf8.Valid input)
    {fuel : ℕ} (hf : 2 ≤ fuel) : ∃ w' ss', (FmtWriter.flush fuel).run w = (.ok (),w') ∧
      w'.f = { base with written := base.written ++ ss' } ∧ ss'.flatten = input ∧
      (∀ s ∈ ss', Utf8.Valid s) ∧ w'.len = 0 := by
  obtain ⟨turns,rfl⟩ := Nat.exists_eq_add_of_le' hf
  obtain ⟨w',ss',hrun,hheld,-,hzero⟩ := h.flush ha ((List.append_nil input).symm ▸ ht) turns
  have hlen := hzero rfl
  have hkept := hheld.kept
  rw [pending, hlen, List.take_zero, List.append_nil] at hkept
  exact ⟨w',ss',hrun,hheld.f,hkept,hheld.valid,hlen⟩

end Held

end FmtWriter
end VvClient
