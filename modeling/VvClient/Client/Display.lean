import VvClient.Proto.FmtWriter
import VvClient.Proto.RoundTrip
import VvClient.Client.Xfer

/-! A value that is shown by its JSON text, piece by piece, and a packet with such a value for its
body: it is the packet that has the text itself. -/
namespace VvClient

open Prog

/-- What `serde_json` does with the values of a type: the slices that it writes, in order, and the error
of `Serialize` that comes behind them. -/
structure ToWriter (T : Type) where
  chunks : T → List (List UInt8)
  error : T → Option Error

namespace ToWriter

variable {T : Type} (serde : ToWriter T)

/-- What is written of a whole value is text. -/
def WritesText : Prop := ∀ v, serde.error v = none → Utf8.Valid (serde.chunks v).flatten

/-- `serde_json::to_string` -/
def toString (v : T) : Except Error String :=
  match serde.error v with
  | some e => .error e
  | none => .ok (String.ofList (Utf8.decode (serde.chunks v).flatten))

end ToWriter

namespace FmtWriter

/-- The loop of `Write::write_all`. -/
def writeAll (turns : ℕ) : ℕ → List UInt8 → Prog FmtWriter WriteStop Unit
  | 0,_ => fail .spent
  | fuel+1,bytes =>
    if bytes = [] then pure ()
    else do
      let n ← write turns bytes
      if n = 0 then fail .writeZero
      else writeAll turns fuel (bytes.drop n)

/-- `serde_json::to_writer` -/
def toWriter {T : Type} (serde : ToWriter T) (fuel : ℕ) (v : T) : Prog FmtWriter WriteStop Unit := do
  forEach (writeAll fuel fuel) (serde.chunks v)
  match serde.error v with
  | some _ => fail .json
  | none => pure ()

/-- Calls of `write`, with what each returns. -/
def writes (fuel : ℕ) : List (List UInt8) → Prog FmtWriter WriteStop (List ℕ)
  | [] => pure []
  | bytes::chunks => do
    let n ← write fuel bytes
    let ns ← writes fuel chunks
    pure (n::ns)

namespace Held

variable {base : Formatter} {w : FmtWriter} {input : List UInt8} {ss : List (List UInt8)}

lemma writes (h : Held base w input ss) (ha : ∀ n, base.answers n = true) (hlen : w.len < bufSize/2)
    {fuel : ℕ} {chunks : List (List UInt8)} (hf : ∀ c ∈ chunks, c.length + 2 ≤ fuel)
    (ht : Utf8.Valid (input ++ chunks.flatten)) : ∃ w' ss',
      (FmtWriter.writes fuel chunks).run w = (.ok (chunks.map List.length),w') ∧
      Held base w' (input ++ chunks.flatten) ss' := by
  induction chunks generalizing w input ss with
  | nil => exact ⟨w,ss,rfl,(List.append_nil input).symm ▸ h⟩
  | cons bytes chunks ih =>
    obtain ⟨hbytes,hchunks⟩ := List.forall_mem_cons.mp hf
    rw [List.flatten_cons, ← List.append_assoc] at ht ⊢
    obtain ⟨w₁,ss₁,hrun₁,h₁,hlen₁⟩ := h.write ha hlen hbytes ht
    obtain ⟨w₂,ss₂,hrun₂,h₂⟩ := ih h₁ hlen₁ hchunks ht
    refine ⟨w₂,ss₂,?_,h₂⟩
    rw [FmtWriter.writes, run_bind_ok hrun₁, run_bind_ok hrun₂]
    rfl

lemma writeAll (h : Held base w input ss) (ha : ∀ n, base.answers n = true) (hlen : w.len < bufSize/2)
    {fuel : ℕ} {bytes tail : List UInt8} (hf : bytes.length + 2 ≤ fuel)
    (ht : Utf8.Valid (input ++ bytes ++ tail)) : ∃ w' ss',
      (FmtWriter.writeAll fuel fuel bytes).run w = (.ok (),w') ∧
      Held base w' (input ++ bytes) ss' ∧ w'.len < bufSize/2 := by
  obtain ⟨w',ss',hrun,hheld,hlen'⟩ := h.write ha hlen hf ht
  obtain ⟨turns,rfl⟩ := Nat.exists_eq_add_of_le' (Nat.le_trans (Nat.le_add_left 2 _) hf)
  by_cases hb : bytes = []
  · subst hb
    exact ⟨w,ss,rfl,(List.append_nil input).symm ▸ h,hlen⟩
  · refine ⟨w',ss',?_,hheld,hlen'⟩
    rw [FmtWriter.writeAll, if_neg hb, run_bind_ok hrun, if_neg (fun hz => hb (List.eq_nil_of_length_eq_zero hz)),
      List.drop_length]
    rfl

lemma forEach (h : Held base w input ss) (ha : ∀ n, base.answers n = true) (hlen : w.len < bufSize/2)
    {fuel : ℕ} {chunks : List (List UInt8)} (hf : ∀ c ∈ chunks, c.length + 2 ≤ fuel)
    (ht : Utf8.Valid (input ++ chunks.flatten)) : ∃ w' ss',
      (Prog.forEach (FmtWriter.writeAll fuel fuel) chunks).run w = (.ok (),w') ∧
      Held base w' (input ++ chunks.flatten) ss' := by
  induction chunks generalizing w input ss with
  | nil => exact ⟨w,ss,rfl,(List.append_nil input).symm ▸ h⟩
  | cons bytes chunks ih =>
    obtain ⟨hbytes,hchunks⟩ := List.forall_mem_cons.mp hf
    rw [List.flatten_cons, ← List.append_assoc] at ht ⊢
    obtain ⟨w₁,ss₁,hrun₁,h₁,hlen₁⟩ := h.writeAll ha hlen hbytes ht
    obtain ⟨w₂,ss₂,hrun₂,h₂⟩ := ih h₁ hlen₁ hchunks ht
    exact ⟨w₂,ss₂,(run_bind_ok hrun₁).trans hrun₂,h₂⟩

end Held

/-- The errors that `fmt` has left of those of a write. -/
def asFmt : WriteStop → WriteStop
  | .json => .fmtError
  | .writeZero => .fmtError
  | e => e

/-- The calls of `fmt`, on a new writer. -/
def showJson {T : Type} (serde : ToWriter T) (fuel : ℕ) (v : T) : Prog FmtWriter WriteStop Unit := do
  mapError asFmt (toWriter serde fuel v)
  mapError asFmt (flush fuel)

end FmtWriter

namespace ToWriter

variable {T : Type} (serde : ToWriter T)

/-- `fmt` of a `JsonDisplay` -/
def fmt (fuel : ℕ) (v : T) (f : Formatter) : Except WriteStop Unit × Formatter :=
  let r := (FmtWriter.showJson serde fuel v).run (.new f)
  (r.1,r.2.f)

/-- The text that a `JsonDisplay` shows. -/
def display (fuel : ℕ) (v : T) : Except Error String :=
  match serde.fmt fuel v ⟨[],fun _ => true⟩ with
  | (.ok _,f) => .ok (String.ofList (Utf8.decode f.written.flatten))
  | (.error _,_) => .error (.msg "fmt error")

end ToWriter

namespace Compact

/-- `collect_str` of `serde_json`, which escapes every text that `fmt` writes. -/
def collectStr (pieces : List (List Char)) : List Char :=
  quote::((pieces.flatMap fun s => s.flatMap escape) ++ [quote])

/-- The fields of an object, from the texts of their values. -/
def fieldTexts : Bool → List (String × List Char) → List Char
  | _,[] => ['\x7d']
  | first,(name,text)::fs =>
    (if first then [] else [',']) ++ writeStr name.toList ++ ':' :: text ++ fieldTexts false fs

lemma collectStr_eq (pieces : List (List Char)) : collectStr pieces = writeStr pieces.flatten := by
  rw [collectStr, writeStr, List.flatten_eq_flatMap, List.flatMap_assoc]
  rfl

lemma writeFields_eq (first : Bool) (fs : Fields) :
    writeFields first fs = fieldTexts first (fs.map fun f => (f.1,write f.2)) := by
  induction fs generalizing first with
  | nil => rfl
  | cons f fs ih => rw [writeFields, ih, List.map_cons, fieldTexts]

end Compact

namespace V1.PacketSer

/-- A field with `skip_serializing_if = "Option::is_none"`. -/
def skipNone {α : Type} (name : String) (text : α → List Char) : Option α → List (String × List Char)
  | none => []
  | some a => [(name,text a)]

/-- The text of a packet whose body writes its text itself. -/
def text {B : Type} (body : B → List Char) (v : PacketSer B) : List Char :=
  '\x7b' :: Compact.fieldTexts true
    (skipNone "typ" (fun n => Compact.write (Json.ofInt32 n)) v.typ ++
      skipNone "sn" (fun n => Compact.write (Json.ofInt64 n)) v.sn ++ skipNone "body" body v.body ++
      skipNone "ack" (fun n => Compact.write (Json.ofInt64 n)) v.ack)

lemma map_skipNone {α : Type} (name : String) (enc : α → Json) (a : Option α) :
    (Json.skipNone name enc a).map (fun f => (f.1,Compact.write f.2)) =
      skipNone name (fun a => Compact.write (enc a)) a := by
  cases a <;> rfl

lemma text_eq {B : Type} (body : B → Json) (v : PacketSer B) :
    v.text (fun b => Compact.write (body b)) = Compact.write (v.serialize body) := by
  rw [serialize, Compact.write, Compact.writeFields_eq, List.map_append, List.map_append, List.map_append,
    map_skipNone, map_skipNone, map_skipNone, map_skipNone, text]

end V1.PacketSer
section Faithful
variable {T : Type}

/-- A run of writes, and a flush behind it. -/
def FmtWriter.writesAndFlush (fuel : ℕ) (chunks : List (List UInt8)) :
    Prog FmtWriter WriteStop (List ℕ) := do
  let ns ← FmtWriter.writes fuel chunks
  FmtWriter.flush fuel
  pure ns

/-- Every write returns its length, every text that was passed on is one, together they are what was
written, and nothing waits in the buffer. -/
def Streamed (f : Formatter) (chunks : List (List UInt8)) (fuel : ℕ) : Prop :=
  ∃ w ss, (FmtWriter.writesAndFlush fuel chunks).run (.new f) = (.ok (chunks.map List.length),w) ∧
    w.f = { f with written := f.written ++ ss } ∧ (∀ s ∈ ss, Utf8.Valid s) ∧
    ss.flatten = chunks.flatten ∧ w.len = 0

/-- What is shown of a value is its JSON text, and a packet with the value is the packet with this
text, in the queue and on the wire. -/
def Displayed (serde : ToWriter T) (f : Formatter) (v : T) (fuel : ℕ) : Prop :=
  ∃ ss text, serde.toString v = .ok text ∧
    serde.fmt fuel v f = (.ok (),{ f with written := f.written ++ ss }) ∧ (∀ s ∈ ss, Utf8.Valid s) ∧
    String.ofList (Utf8.decode ss.flatten) = text ∧
    (∀ typ msgId, Xfer.addQos1Json typ (serde.display fuel v) msgId =
      Xfer.addQos1Typed typ (serde.toString v) msgId) ∧
    ∀ typ sn ack, V1.PacketSer.text (fun _ => Compact.collectStr (ss.map Utf8.decode)) ⟨typ,sn,some v,ack⟩ =
      Compact.write (V1.PacketSer.serialize .str ⟨typ,sn,some text,ack⟩)

lemma streamed {f : Formatter} (hf : ∀ n, f.answers n = true) {chunks : List (List UInt8)}
    (hc : Utf8.Valid chunks.flatten) {fuel : ℕ} (hfuel : ∀ c ∈ chunks, c.length + 2 ≤ fuel)
    (htwo : 2 ≤ fuel) : Streamed f chunks fuel := by
  obtain ⟨w₁,ss₁,hrun₁,h₁⟩ := (FmtWriter.Held.new f).writes hf (by simp [FmtWriter.new, bufSize]) hfuel hc
  obtain ⟨w₂,ss₂,hrun₂,hw,hflat,hvalid,hlen⟩ := h₁.finish hf hc htwo
  refine ⟨w₂,ss₂,?_,hw,hvalid,hflat,hlen⟩
  rw [FmtWriter.writesAndFlush, run_bind_ok hrun₁, run_bind_ok hrun₂]
  rfl

/-- `fmt` passes on the whole JSON text. -/
lemma fmt_run {serde : ToWriter T} {f : Formatter} (hf : ∀ n, f.answers n = true) {v : T}
    (hv : serde.error v = none) (hc : Utf8.Valid (serde.chunks v).flatten) {fuel : ℕ}
    (hfuel : ∀ c ∈ serde.chunks v, c.length + 2 ≤ fuel) (htwo : 2 ≤ fuel) : ∃ ss,
      serde.fmt fuel v f = (.ok (),{ f with written := f.written ++ ss }) ∧
      (∀ s ∈ ss, Utf8.Valid s) ∧ ss.flatten = (serde.chunks v).flatten := by
  obtain ⟨w₁,ss₁,hrun₁,h₁⟩ := (FmtWriter.Held.new f).forEach hf (by simp [FmtWriter.new, bufSize]) hfuel hc
  obtain ⟨w₂,ss₂,hrun₂,hw,hflat,hvalid,-⟩ := h₁.finish hf hc htwo
  have hwriter : (FmtWriter.toWriter serde fuel v).run (.new f) = (.ok (),w₁) := by
    rw [FmtWriter.toWriter, run_bind_ok hrun₁, hv]
    rfl
  have hmapped : (mapError FmtWriter.asFmt (FmtWriter.toWriter serde fuel v)).run (.new f) =
      (.ok (),w₁) := by
    rw [run_mapError, hwriter]
    rfl
  have hshow : (FmtWriter.showJson serde fuel v).run (.new f) = (.ok (),w₂) := by
    rw [FmtWriter.showJson, run_bind_ok hmapped, run_mapError, hrun₂]
    rfl
  refine ⟨ss₂,?_,hvalid,hflat⟩
  rw [ToWriter.fmt, hshow, hw]

lemma displayed {serde : ToWriter T} {f : Formatter} (hf : ∀ n, f.answers n = true) {v : T}
    (hv : serde.error v = none) (hc : Utf8.Valid (serde.chunks v).flatten) {fuel : ℕ}
    (hfuel : ∀ c ∈ serde.chunks v, c.length + 2 ≤ fuel) (htwo : 2 ≤ fuel) : Displayed serde f v fuel := by
  obtain ⟨ss,hfmt,hvalid,hflat⟩ := fmt_run hf hv hc hfuel htwo
  have htext : serde.toString v = .ok (String.ofList (Utf8.decode (serde.chunks v).flatten)) := by
    rw [ToWriter.toString, hv]
  refine ⟨ss,_,htext,hfmt,hvalid,by rw [hflat],fun typ msgId => ?_,fun typ sn ack => ?_⟩
  · obtain ⟨ss',hfmt',-,hflat'⟩ := fmt_run (f := ⟨[],fun _ => true⟩) (fun _ => rfl) hv hc hfuel htwo
    rw [ToWriter.display, hfmt', htext]
    simp only [List.nil_append, hflat']
    rfl
  · rw [← V1.PacketSer.text_eq, Compact.collectStr_eq, ← Utf8.decode_flatten hvalid, hflat]
    simp only [V1.PacketSer.text, V1.PacketSer.skipNone, Compact.write, String.toList_ofList]

/-- Bytes that are cut anywhere, into pieces of any size, are passed on as text without a loss, and no
index leaves the buffer. So a value is shown as its JSON text, and is queued as this text is. -/
theorem fmtWriter_faithful (f : Formatter) (hf : ∀ n, f.answers n = true) (chunks : List (List UInt8))
    (hchunks : Utf8.Valid chunks.flatten) (serde : ToWriter T) (hserde : serde.WritesText) (v : T)
    (hv : serde.error v = none) :
    ∃ enough, ∀ fuel, enough ≤ fuel → Streamed f chunks fuel ∧ Displayed serde f v fuel := by
  have hlong : ∀ cs : List (List UInt8), ∀ c ∈ cs, c.length ≤ cs.flatten.length :=
    fun _ _ hc => (List.sublist_flatten_of_mem hc).length_le
  refine ⟨chunks.flatten.length + (serde.chunks v).flatten.length + 2,fun fuel hfuel => ⟨?_,?_⟩⟩
  · refine streamed hf hchunks (fun c hc => ?_) (by omega)
    have := hlong chunks c hc
    omega
  · refine displayed hf hv (hserde v hv) (fun c hc => ?_) (by omega)
    have := hlong (serde.chunks v) c hc
    omega

lemma valid_emptyObject : Utf8.Valid [[0x7b],[0x7d]].flatten := ⟨['\x7b','\x7d'],by decide⟩

/-- A character of three bytes that is cut behind its first, and an empty object. -/
theorem fmtWriter_faithful_cut : ∃ enough, ∀ fuel, enough ≤ fuel →
    Streamed ⟨[],fun _ => true⟩ [[0xe4],[0xbd,0xa0]] fuel ∧
    Displayed ⟨fun _ : Unit => [[0x7b],[0x7d]],fun _ => none⟩ ⟨[],fun _ => true⟩ () fuel :=
  fmtWriter_faithful ⟨[],fun _ => true⟩ (fun _ => rfl) [[0xe4],[0xbd,0xa0]] ⟨['\u4f60'],by decide⟩
    ⟨fun _ => [[0x7b],[0x7d]],fun _ => none⟩ (fun _ _ => valid_emptyObject) () rfl

end Faithful
end VvClient
