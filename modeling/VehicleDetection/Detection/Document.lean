import VehicleDetection.Base.JsonText
import VehicleDetection.Base.Number
import VehicleDetection.Detection.Json

/-!
# Reading a payload back

* `Document`            what a reader of the payload gets: strings byte for byte, numbers as their text;
* `readDocument`        a JSON reader followed by a look at the member names;
* `documentOf`          the document of a payload;
* `serializeDetections_read`  the serialized payload is read as its document;
* `formatDouble_faithful_iff`  when the text in a number slot denotes the number.
-/

set_option linter.unusedVariables false

namespace VD
open BStr JsonText

structure DocumentItem where
  id : Bytes
  classLabel : Bytes
  confidence : Bytes
  centerX : Bytes
  centerY : Bytes
  centerZ : Bytes
  length : Bytes
  width : Bytes
  height : Bytes
  yaw : Bytes
deriving DecidableEq

structure Document where
  schemaVersion : Bytes
  timestamp : Bytes
  frameId : Bytes
  detections : List DocumentItem
deriving DecidableEq

/-- the values of an object with exactly these members, in this order -/
def values (keys : List Bytes) : Tree → Option (List Tree)
  | .obj ms => if ms.map Prod.fst = keys then some (ms.map Prod.snd) else none
  | _ => none

def DocumentItem.ofTree (t : Tree) : Option DocumentItem :=
  match values [lit "id", lit "class", lit "confidence", lit "center", lit "size", lit "yaw"] t with
  | some [.str id, .str classLabel, .bare confidence, center, size, .bare yaw] =>
    match values [lit "x", lit "y", lit "z"] center,
        values [lit "length", lit "width", lit "height"] size with
    | some [.bare x, .bare y, .bare z], some [.bare length, .bare width, .bare height] =>
      some ⟨id, classLabel, confidence, x, y, z, length, width, height, yaw⟩
    | _, _ => none
  | _ => none

def Document.ofTree (t : Tree) : Option Document :=
  match values [lit "schema_version", lit "timestamp", lit "frame_id", lit "detections"] t with
  | some [.str schemaVersion, .str timestamp, .str frameId, .arr items] =>
    (items.mapM DocumentItem.ofTree).map fun detections =>
      ⟨schemaVersion, timestamp, frameId, detections⟩
  | _ => none

def readDocument (s : Bytes) : Option Document := (JsonText.read s).bind Document.ofTree

/-! ## the document of a payload -/

def documentItem (d : DetectionJsonItem) : DocumentItem where
  id := d.id
  classLabel := d.classLabel
  confidence := formatDouble d.confidence
  centerX := formatDouble d.centerX
  centerY := formatDouble d.centerY
  centerZ := formatDouble d.centerZ
  length := formatDouble d.length
  width := formatDouble d.width
  height := formatDouble d.height
  yaw := formatDouble d.yaw

def documentOf (payload : DetectionJsonPayload) : Document where
  schemaVersion := payloadSchemaVersion
  timestamp := formatIso8601Utc payload.stampSec payload.stampNanosec
  frameId := payload.frameId
  detections := payload.detections.map documentItem

def DocumentItem.tree (d : DocumentItem) : Tree :=
  .obj [
    (lit "id", .str d.id),
    (lit "class", .str d.classLabel),
    (lit "confidence", .bare d.confidence),
    (lit "center", .obj [
      (lit "x", .bare d.centerX), (lit "y", .bare d.centerY), (lit "z", .bare d.centerZ)]),
    (lit "size", .obj [
      (lit "length", .bare d.length), (lit "width", .bare d.width), (lit "height", .bare d.height)]),
    (lit "yaw", .bare d.yaw)]

def Document.tree (d : Document) : Tree :=
  .obj [
    (lit "schema_version", .str d.schemaVersion),
    (lit "timestamp", .str d.timestamp),
    (lit "frame_id", .str d.frameId),
    (lit "detections", .arr (d.detections.map DocumentItem.tree))]

theorem DocumentItem.ofTree_tree (d : DocumentItem) : ofTree d.tree = some d := rfl

theorem Document.ofTree_tree (d : Document) : ofTree d.tree = some d := by
  have hitems : (d.detections.map DocumentItem.tree).mapM DocumentItem.ofTree = some d.detections := by
    induction d.detections with
    | nil => rfl
    | cons e l ih =>
      rw [List.map_cons, List.mapM_cons, DocumentItem.ofTree_tree, ih]
      rfl
  show ((d.detections.map DocumentItem.tree).mapM DocumentItem.ofTree).map _ = _
  rw [hitems]
  rfl

/-! ## the serializer prints the tree -/

theorem serializeItem_eq (d : DetectionJsonItem) :
    serializeItem d = (documentItem d).tree.render escapeByte := by
  simp only [serializeItem, DocumentItem.tree, documentItem, Tree.render, Tree.tokens, membersTokens,
    List.flatMap_cons, List.flatMap_nil, Token.text, List.flatten_cons, List.flatten_nil,
    List.append_assoc, List.cons_append, List.nil_append, List.append_nil, escapeJsonString]
  rfl

theorem escapeByte_plain : ∀ c : UInt8, ¬ c < 32 → c ≠ 34 → c ≠ 92 → escapeByte c = [c] := by
  decide +kernel

/-- the control bytes -/
theorem escapeByte_lt (n : Fin 32) (tokens : List Token) (acc : Bytes) :
    (escapeByte (UInt8.ofNat n)).foldlM Lexer.step ⟨tokens, .str acc⟩ =
      some ⟨tokens, .str (acc ++ [UInt8.ofNat n])⟩ := by
  fin_cases n <;> rfl

theorem escapeByte_escapes : Escapes escapeByte := by
  intro c tokens acc
  by_cases h32 : c < 32
  · have hc : UInt8.ofNat c.toNat = c := UInt8.ofNat_toNat
    rw [← hc]
    exact escapeByte_lt ⟨c.toNat, h32⟩ tokens acc
  · by_cases h34 : c = 34
    · subst h34
      rfl
    · by_cases h92 : c = 92
      · subst h92
        rfl
      · rw [escapeByte_plain c h32 h34 h92]
        show (if c = 34 then _ else if c = 92 then _ else if c < 32 then _ else _ : Option Lexer).bind _ = _
        rw [if_neg h34, if_neg h92, if_neg h32]
        rfl

theorem escapeJsonString_plain {s : Bytes} (h : ∀ c ∈ s, ¬ c < 32 ∧ c ≠ 34 ∧ c ≠ 92) :
    escapeJsonString s = s := by
  induction s with
  | nil => rfl
  | cons c s ih =>
    obtain ⟨⟨h₁, h₂, h₃⟩, hs⟩ := List.forall_mem_cons.mp h
    have ih' : s.flatMap escapeByte = s := ih hs
    rw [escapeJsonString, List.flatMap_cons, escapeByte_plain c h₁ h₂ h₃, ih', List.singleton_append]

theorem formatIso8601Utc_plain (sec : Int32) (nanosec : UInt32) :
    escapeJsonString (formatIso8601Utc sec nanosec) = formatIso8601Utc sec nanosec := by
  have hp : ∀ c : UInt8, isNumeric c = true ∨ c ∈ lit "T:Z" → ¬ c < 32 ∧ c ≠ 34 ∧ c ≠ 92 := by
    decide +kernel
  exact escapeJsonString_plain fun c hc => hp c (formatIso8601Utc_bytes sec nanosec c hc)

theorem render_items (items : List DetectionJsonItem) :
    (Tree.arr ((items.map documentItem).map DocumentItem.tree)).tokens.flatMap (Token.text escapeByte) =
      91 :: List.intercalate (lit ",") (items.map serializeItem) ++ [93] := by
  apply (render_arr escapeByte _).trans
  rw [List.map_map, List.map_map, List.map_congr_left fun d _ => serializeItem_eq d]
  rfl

/-- the serialized payload is the printed tree of its document -/
theorem serializeDetections_eq (payload : DetectionJsonPayload) :
    serializeDetections payload = (documentOf payload).tree.render escapeByte := by
  have hstamp : (formatIso8601Utc payload.stampSec payload.stampNanosec).flatMap escapeByte =
      formatIso8601Utc payload.stampSec payload.stampNanosec := formatIso8601Utc_plain _ _
  simp only [serializeDetections, Document.tree, documentOf, Tree.render, Tree.tokens, membersTokens,
    List.flatMap_cons, List.flatMap_nil, Token.text, List.flatten_cons, List.flatten_nil,
    List.append_assoc, List.cons_append, List.nil_append, List.append_nil, escapeJsonString,
    List.flatMap_append, render_items, hstamp]
  rfl

/-! ## its slots -/

theorem not_isDelimiter_of_isNumeric : ∀ c : UInt8, isNumeric c = true → isDelimiter c = false := by
  decide +kernel

theorem formatDouble_isNumeric (value : Float) : ∀ b ∈ formatDouble value, isNumeric b = true := by
  unfold formatDouble
  split
  · exact fun b hb => fixed6_isNumeric value b (List.mem_of_mem_take hb)
  · decide +kernel

theorem formatDouble_ne_nil (value : Float) : formatDouble value ≠ [] := by
  unfold formatDouble
  split
  · have h46 : (46 : UInt8) ∈ fixed6 value := by simp [fixed6]
    have hlen := List.length_pos_of_mem h46
    intro e
    have := congrArg List.length e
    rw [List.length_take, List.length_nil] at this
    omega
  · decide +kernel

/-- a number slot is one token -/
theorem formatDouble_valid (value : Float) : (Tree.bare (formatDouble value)).Valid :=
  Tree.valid_bare.mpr ⟨formatDouble_ne_nil value, fun c hc =>
    not_isDelimiter_of_isNumeric c (formatDouble_isNumeric value c hc)⟩

theorem documentItem_valid (d : DetectionJsonItem) : (documentItem d).tree.Valid := by
  have hslot := fun v => Tree.valid_bare.mp (formatDouble_valid v)
  simp only [DocumentItem.tree, documentItem, Tree.Valid, MembersValid, true_and, and_true]
  exact ⟨hslot _, ⟨hslot _, hslot _, hslot _⟩, ⟨hslot _, hslot _, hslot _⟩, hslot _⟩

theorem elemsValid_map {α : Type} (f : α → Tree) (l : List α) (h : ∀ x, (f x).Valid) :
    ElemsValid (l.map f) := by
  induction l with
  | nil => rw [List.map_nil, ElemsValid]; trivial
  | cons x l ih => rw [List.map_cons, ElemsValid]; exact ⟨h x, ih⟩

theorem documentOf_valid (payload : DetectionJsonPayload) : (documentOf payload).tree.Valid := by
  simp only [Document.tree, documentOf, Tree.Valid, MembersValid, true_and, and_true, List.map_map]
  exact elemsValid_map _ _ documentItem_valid

/-- **A serialized payload is read as its document.** Payloads with the same text have the same document,
and the text is one line without a control byte. -/
theorem serializeDetections_read (payload : DetectionJsonPayload) :
    readDocument (serializeDetections payload) = some (documentOf payload) ∧
      (∀ other, serializeDetections other = serializeDetections payload →
        documentOf other = documentOf payload) ∧
      ∀ b ∈ serializeDetections payload, 32 ≤ b.toNat := by
  have hread : ∀ p, readDocument (serializeDetections p) = some (documentOf p) := by
    intro p
    rw [serializeDetections_eq, readDocument, read_render escapeByte_escapes (documentOf_valid p)]
    exact Document.ofTree_tree _
  refine ⟨hread payload, fun other h => ?_, serializeDetections_printable payload⟩
  have ho := hread other
  rw [h, hread payload] at ho
  exact (Option.some.inj ho).symm

/-- the text alone -/
theorem readDocument_text (payload : DetectionJsonPayload) :
    readDocument (serializeDetections payload) = some (documentOf payload) := by
  rw [serializeDetections_eq, readDocument, read_render escapeByte_escapes (documentOf_valid payload)]
  exact Document.ofTree_tree _

/-! ## the number in a slot -/

/-- What a slot promises of a double: a number token, printed whole, that denotes the number rounded to
six decimals, or zero where there is no finite number. -/
def SlotFaithful (value : Float) : Prop :=
  ∃ t : NumberToken, t.text = formatDouble value ∧
    if value.isFinite then
      formatDouble value = fixed6 value ∧ t.value = rounded6 value ∧
        |t.value - exact value| ≤ 1 / 2000000
    else t.value = 0

/-- the token `0.0` -/
def zeroToken : NumberToken where
  negative := false
  int := [48]
  frac := [48]
  int_digits := ⟨nofun, List.forall_mem_singleton.mpr rfl⟩
  no_leading_zero _ := rfl
  frac_digits := ⟨nofun, List.forall_mem_singleton.mpr rfl⟩

theorem take_eq_self_iff {s : Bytes} {n : Nat} : s.take n = s ↔ s.length ≤ n := by
  constructor
  · intro h
    have := congrArg List.length h
    rw [List.length_take] at this
    omega
  · exact List.take_of_length_le

/-- A slot is faithful to every NaN and infinity, and to the finite numbers below `10^24`, or `10^23` with
the sign bit set: these are the ones whose text fits into the buffer. -/
theorem formatDouble_faithful_iff (value : Float) :
    SlotFaithful value ↔ (value.isFinite = true → |exact value| < limit31 value) := by
  unfold SlotFaithful
  cases hf : value.isFinite with
  | false =>
    refine iff_of_true ⟨zeroToken, ?_, ?_⟩ nofun
    · rw [formatDouble, hf, if_neg nofun]
      decide +kernel
    · rw [if_neg nofun]
      norm_num [NumberToken.value, zeroToken, signed, readDigits]
  | true =>
    have he : formatDouble value = (fixed6 value).take 31 := by rw [formatDouble, hf, if_pos rfl]
    rw [← fixed6_length_le, he]
    constructor
    · rintro ⟨t, -, ht⟩ -
      rw [if_pos rfl] at ht
      exact take_eq_self_iff.mp ht.1
    · intro h
      have hcut := take_eq_self_iff.mpr (h rfl)
      refine ⟨fixed6Token value, (text_fixed6Token value).trans hcut.symm, ?_⟩
      rw [if_pos rfl, value_fixed6Token]
      exact ⟨hcut, rfl, abs_rounded6_sub_exact value⟩

/-- of `1e40` only the first 31 digits are printed -/
theorem formatDouble_cut :
    formatDouble 1e40 = lit "1000000000000000030378602842700" ∧ ¬ SlotFaithful 1e40 := by
  refine ⟨by decide +kernel, ?_⟩
  rintro ⟨t, ht, -⟩
  have hpoint : (46 : UInt8) ∈ t.text := by simp [NumberToken.text]
  rw [ht] at hpoint
  exact absurd hpoint (by decide +kernel)

end VD
