import VehicleDetection.Base.JsonPrefix
import VehicleDetection.Detection.Document

/-!
# `tools/receive_detections.py`

The handler of the receiver. What it takes from Python is modelled as far as a header and a body can tell it
apart: a surrogate escape and an integer of more than 4300 digits are left out.

* `pyInt`, `headersGet`  `int` and `headers.get`;
* `loads`     `json.loads(body.decode('utf-8'))`; a literal that JSON does not have is refused;
* `doPost`    the handler, with what it prints and what it answers;
* `readable_iff`  the payloads whose text it takes for JSON;
* `doPost_beginning`  of a body that has been cut it prints nothing.
-/

set_option linter.unusedVariables false

namespace VD.Receiver
open BStr JsonText

/-! ## `int` and the headers -/

/-- a sign is taken off -/
def pySign : Bytes → Bool × Bytes
  | 45 :: rest => (true, rest)
  | 43 :: rest => (false, rest)
  | rest => (false, rest)

/-- `str.isspace` for the characters of a header, which are Latin-1 -/
def pySpace (c : UInt8) : Bool := c == 32 || (9 ≤ c && c ≤ 13) || (28 ≤ c && c ≤ 31) || c == 133 || c == 160

/-- blanks around it, a sign, and single underscores between digits are allowed -/
def pyInt (s : Bytes) : Option Int :=
  let (negative, digits) := pySign ((s.dropWhile pySpace).rdropWhile pySpace)
  let groups := digits.splitOn 95
  if groups.all fun g => !g.isEmpty && g.all isDigit then
    let n : Int := readDigits groups.flatten
    some (if negative then -n else n)
  else none

def lower (c : UInt8) : UInt8 := if 65 ≤ c ∧ c ≤ 90 then c + 32 else c

/-- the first header of this name, whatever its case -/
def headersGet (headers : List (Bytes × Bytes)) (name : Bytes) : Option Bytes :=
  (headers.find? fun h => h.1.map lower == name.map lower).map Prod.snd

/-- `int(self.headers.get('Content-Length', '0') or '0')` -/
def contentLength (headers : List (Bytes × Bytes)) : Option Int :=
  let value := (headersGet headers (lit "Content-Length")).getD (lit "0")
  pyInt (if value = [] then lit "0" else value)

/-! ## `json.loads` -/

/-- an optional fraction and an optional exponent behind the digits of a number -/
def isNumberTail (s : Bytes) : Bool :=
  let exponent (s : Bytes) : Bool := match s with
    | [] => true
    | c :: s => (c == 101 || c == 69) &&
      let s := match s with
        | 43 :: s => s
        | 45 :: s => s
        | s => s
      !s.isEmpty && s.all isDigit
  match s with
  | 46 :: s => !(s.takeWhile isDigit).isEmpty && exponent (s.dropWhile isDigit)
  | s => exponent s

def isNumberText (s : Bytes) : Bool :=
  let s := match s with
    | 45 :: s => s
    | s => s
  let int := s.takeWhile isDigit
  !int.isEmpty && (int.head? != some 48 || int == [48]) && isNumberTail (s.dropWhile isDigit)

/-- a number, or one of the names that Python knows -/
def isLiteral (s : Bytes) : Bool :=
  isNumberText s || [lit "null", lit "true", lit "false", lit "NaN", lit "Infinity", lit "-Infinity"].contains s

mutual

def literals : JsonText.Tree → Bool
  | .str _ => true
  | .bare s => isLiteral s
  | .arr vs => elemsLiterals vs
  | .obj ms => membersLiterals ms

def elemsLiterals : List JsonText.Tree → Bool
  | [] => true
  | v :: vs => literals v && elemsLiterals vs

def membersLiterals : List (Bytes × JsonText.Tree) → Bool
  | [] => true
  | (_, v) :: ms => literals v && membersLiterals ms

end

def isUtf8 (s : Bytes) : Bool := (String.fromUTF8? s.toByteArray).isSome

/-- `none`: `UnicodeDecodeError` or `JSONDecodeError` -/
def loads (body : Bytes) : Option JsonText.Tree := if isUtf8 body then (JsonText.read body).filter literals else none

/-- `dict.get`; the last one of several members with one name counts -/
def dictGet (members : List (Bytes × JsonText.Tree)) (key : Bytes) : Option JsonText.Tree :=
  (members.reverse.find? fun m => m.1 == key).map Prod.snd

/-- what `len` counts and a loop goes over: the elements of a list, the keys of a `dict`, the characters of a
`str`; `none`: `TypeError` -/
def elements : JsonText.Tree → Option (List JsonText.Tree)
  | .arr vs => some vs
  | .obj ms => some ((ms.map Prod.fst).eraseDups.map .str)
  | .str s => some (((String.fromUTF8? s.toByteArray).map fun t =>
      t.toList.map fun c => JsonText.Tree.str (String.utf8EncodeChar c)).getD [])
  | .bare _ => none

/-! ## the handler -/

/-- a line on the standard output, before it is formatted -/
inductive Line where
  | summary (timestamp frameId : JsonText.Tree) (count : Nat)
  | detection (det : JsonText.Tree)

/-- `status` is `none` where an exception leaves the handler -/
structure Outcome where
  printed : List Line := []
  status : Option Nat := none

/-- the handler behind the headers -/
def handle (body : Bytes) : Outcome :=
  match loads body with
  | none => { status := some 400 }
  | some (.obj payload) =>
    let timestamp := (dictGet payload (lit "timestamp")).getD (.str (lit "<no-timestamp>"))
    let frameId := (dictGet payload (lit "frame_id")).getD (.str (lit "<no-frame>"))
    let detections := (dictGet payload (lit "detections")).getD (.arr [])
    match elements detections with
    | none => {}
    | some detections =>
      { printed := .summary timestamp frameId detections.length :: detections.map .detection
        status := some 204 }
  | some _ => {}

/-- `rfile` is what the peer has sent behind the headers, up to the end if it has closed the connection -/
def doPost (headers : List (Bytes × Bytes)) (rfile : Bytes) : Outcome :=
  match contentLength headers with
  | none => {}
  | some length => handle (if length > 0 then rfile.take length.toNat else [])

/-! ## the bodies of the sender -/

/-- what is printed for a document -/
def printedOf (d : Document) : List Line :=
  .summary (.str d.timestamp) (.str d.frameId) d.detections.length ::
    d.detections.map fun item => .detection item.tree

/-- the receiver takes the text of this payload for JSON -/
def Readable (payload : DetectionJsonPayload) : Prop :=
  isUtf8 (serializeDetections payload) = true ∧ literals (documentOf payload).tree = true

instance (payload : DetectionJsonPayload) : Decidable (Readable payload) := inferInstanceAs (Decidable (_ ∧ _))

theorem read_serialized (payload : DetectionJsonPayload) :
    JsonText.read (serializeDetections payload) = some (documentOf payload).tree := by
  rw [serializeDetections_eq, read_render escapeByte_escapes (documentOf_valid payload)]

theorem loads_serialized (payload : DetectionJsonPayload) : loads (serializeDetections payload) =
    if Readable payload then some (documentOf payload).tree else none := by
  rw [loads, read_serialized, Option.filter_some]
  by_cases hu : isUtf8 (serializeDetections payload) = true
  · rw [if_pos hu]
    exact if_congr (and_iff_right hu).symm rfl rfl
  · rw [if_neg hu, if_neg fun h : Readable payload => hu h.1]

theorem loads_read {body : Bytes} {t : JsonText.Tree} (h : loads body = some t) : JsonText.read body = some t := by
  unfold loads at h
  split at h
  · exact (Option.filter_eq_some_iff.mp h).1
  · cases h

/-- the text ends with the brace of the object -/
theorem serialized_last (payload : DetectionJsonPayload) :
    ∃ text, serializeDetections payload = text ++ [125] := by
  rw [← List.getLast?_eq_some_iff, serializeDetections]
  have hend : (lit "]\x7d").getLast? = some 125 := by decide
  simp only [List.flatten_cons, List.flatten_nil, List.append_nil, List.getLast?_append, hend, Option.some_or]

/-- A beginning that is taken for an object is the whole text. -/
theorem loads_beginning {payload : DetectionJsonPayload} {p : Bytes} (hp : p <+: serializeDetections payload)
    {members : List (Bytes × JsonText.Tree)} (h : loads p = some (.obj members)) :
    p = serializeDetections payload := by
  obtain ⟨rest, hrest⟩ := hp
  have hwhole : JsonText.read (p ++ rest) = some (documentOf payload).tree := hrest ▸ read_serialized payload
  have hblank := read_cut hwhole (loads_read h) nofun
  obtain ⟨text, htext⟩ := serialized_last payload
  rcases List.eq_nil_or_concat' rest with rfl | ⟨rest, c, rfl⟩
  · exact (List.append_nil p).symm.trans hrest
  · rw [htext, ← List.append_assoc] at hrest
    have hc : [c] = [125] := (List.append_inj' hrest rfl).2
    have hlast : JsonText.isBlank c = true := hblank c (List.mem_append_right rest (List.mem_singleton_self c))
    rw [List.head_eq_of_cons_eq hc] at hlast
    exact absurd hlast (by decide)

/-! ## the numbers in a body -/

theorem isNumberTail_frac {frac : Bytes} (h : ∀ c ∈ frac, isDigit c = true) :
    isNumberTail (46 :: frac) = !frac.isEmpty := by
  have htake : frac.takeWhile isDigit = frac := List.takeWhile_eq_self_iff.mpr h
  have hdrop : frac.dropWhile isDigit = [] := List.dropWhile_eq_nil_iff.mpr h
  show (!(frac.takeWhile isDigit).isEmpty && _) = _
  rw [htake, hdrop, Bool.and_true]

theorem isNumberText_eq {sign int tail : Bytes} (hsign : sign = [] ∨ sign = [45]) (hne : int ≠ [])
    (hint : ∀ c ∈ int, isDigit c = true) (hzero : int.head? = some 48 → int = [48])
    (htail : ∀ c ∈ tail.head?, isDigit c = false) : isNumberText (sign ++ (int ++ tail)) = isNumberTail tail := by
  obtain ⟨htake, hdrop⟩ := takeWhile_head hint htail
  have hhead : (int.head? != some 48 || int == [48]) = true := by
    by_cases h : int.head? = some 48
    · rw [hzero h]
      rfl
    · simp [h]
  have hbehind : ∀ {s : Bytes}, s = int ++ tail →
      (!(s.takeWhile isDigit).isEmpty && ((s.takeWhile isDigit).head? != some 48 || s.takeWhile isDigit == [48]) &&
        isNumberTail (s.dropWhile isDigit)) = isNumberTail tail := by
    rintro s rfl
    rw [htake, hdrop, hhead, Bool.and_true]
    simp [hne]
  rcases hsign with rfl | rfl
  · obtain ⟨d, ds, rfl⟩ := List.exists_cons_of_ne_nil hne
    have h45 : d ≠ 45 := (not_space_of_isDigit (hint d List.mem_cons_self)).2.1
    unfold isNumberText
    split
    · rename_i rest he
      exact absurd (List.head_eq_of_cons_eq he) h45
    · exact hbehind rfl
  · exact hbehind rfl

theorem last_digit {s digits : Bytes} (hne : digits ≠ []) (hd : ∀ c ∈ digits, isDigit c = true) :
    (s ++ digits).getLast? ≠ some 46 := by
  rw [List.getLast?_append, List.getLast?_eq_some_getLast hne, Option.some_or]
  intro h
  have h46 := hd _ (List.getLast_mem hne)
  rw [Option.some.inj h] at h46
  exact absurd h46 (by decide)

/-- A number that is cut is a number unless it is cut behind the point. -/
theorem isNumberText_take (t : NumberToken) {k : Nat} (hk : 2 ≤ k) :
    isNumberText (t.text.take k) = true ↔ (t.text.take k).getLast? ≠ some 46 := by
  obtain ⟨negative, int, frac, ⟨hne, hint⟩, hzero, hfrac, hdigits⟩ := t
  obtain ⟨sign, hs, hsign, hlen⟩ : ∃ sign : Bytes, (if negative then [45] else []) = sign ∧
      (sign = [] ∨ sign = [45]) ∧ sign.length ≤ 1 := by
    cases negative with
    | false => exact ⟨[], rfl, .inl rfl, Nat.zero_le 1⟩
    | true => exact ⟨[45], rfl, .inr rfl, le_rfl⟩
  have htext : NumberToken.text ⟨negative, int, frac, ⟨hne, hint⟩, hzero, hfrac, hdigits⟩ =
      sign ++ (int ++ 46 :: frac) := by
    rw [NumberToken.text, hs, List.append_assoc]
  rw [htext, List.take_append, List.take_of_length_le (by omega), List.take_append]
  by_cases hcut : k - sign.length ≤ int.length
  · -- nothing of the point is left
    rw [Nat.sub_eq_zero_of_le hcut, List.take_zero]
    have hne' : int.take (k - sign.length) ≠ [] := by
      rw [Ne, List.take_eq_nil_iff]
      exact fun h => h.elim (by omega) hne
    have hint' : ∀ c ∈ int.take (k - sign.length), isDigit c = true := fun c hc => hint c (List.mem_of_mem_take hc)
    rw [isNumberText_eq hsign hne' hint' ?_ (fun c hc => by cases hc), List.append_nil]
    · exact iff_of_true rfl (last_digit hne' hint')
    · intro h
      rw [List.head?_take, if_neg (by omega)] at h
      rw [hzero h]
      exact List.take_of_length_le (by simp; omega)
  · obtain ⟨n, hn⟩ : ∃ n, k - sign.length - int.length = n + 1 := ⟨k - sign.length - int.length - 1, by omega⟩
    have hdigits' : ∀ c ∈ frac.take n, isDigit c = true := fun c hc => hdigits c (List.mem_of_mem_take hc)
    rw [hn, List.take_of_length_le (by omega), List.take_succ_cons,
      isNumberText_eq hsign hne hint hzero (by simp; decide), isNumberTail_frac hdigits']
    by_cases hnil : frac.take n = []
    · rw [hnil]
      exact iff_of_false (by simp) (by simp)
    · have hlast : (sign ++ (int ++ 46 :: frac.take n)).getLast? ≠ some 46 := by
        rw [show sign ++ (int ++ 46 :: frac.take n) = (sign ++ (int ++ [46])) ++ frac.take n by simp]
        exact last_digit hnil hdigits'
      exact iff_of_true (by simpa using hnil) hlast

/-- The text in a number slot is a number unless it has been cut behind the point. -/
theorem isNumberText_formatDouble (x : Float) :
    isNumberText (formatDouble x) = true ↔ (formatDouble x).getLast? ≠ some 46 := by
  cases hf : x.isFinite with
  | false =>
    rw [formatDouble, hf, if_neg Bool.false_ne_true]
    decide +kernel
  | true =>
    rw [formatDouble, hf, if_pos rfl, ← text_fixed6Token]
    exact isNumberText_take (fixed6Token x) (by norm_num)

theorem isLiteral_formatDouble (x : Float) :
    isLiteral (formatDouble x) = true ↔ (formatDouble x).getLast? ≠ some 46 := by
  rw [← isNumberText_formatDouble, isLiteral, Bool.or_eq_true, or_iff_left_iff_imp]
  intro h
  have hnames : ∀ s ∈ [lit "null", lit "true", lit "false", lit "NaN", lit "Infinity", lit "-Infinity"],
      s.getLast? ≠ some 46 := by decide
  exact (isNumberText_formatDouble x).mpr (hnames _ (List.contains_iff_mem.mp h))

/-- the numbers of an item -/
def numbersOf (d : DetectionJsonItem) : List Float :=
  [d.confidence, d.centerX, d.centerY, d.centerZ, d.length, d.width, d.height, d.yaw]

theorem literals_item (d : DetectionJsonItem) : literals (documentItem d).tree = true ↔
    ∀ x ∈ numbersOf d, (formatDouble x).getLast? ≠ some 46 := by
  simp only [DocumentItem.tree, documentItem, literals, membersLiterals, Bool.and_true, Bool.true_and,
    Bool.and_eq_true, isLiteral_formatDouble, numbersOf, List.forall_mem_cons, List.not_mem_nil, false_imp_iff,
    implies_true, and_true, and_assoc]

theorem elemsLiterals_iff (vs : List JsonText.Tree) : elemsLiterals vs = true ↔ ∀ v ∈ vs, literals v = true := by
  induction vs with
  | nil => exact iff_of_true rfl nofun
  | cons v vs ih => rw [elemsLiterals, Bool.and_eq_true, ih, List.forall_mem_cons]

/-- A payload is readable when its text is UTF-8 and none of its numbers has been cut behind the point. -/
theorem readable_iff (payload : DetectionJsonPayload) : Readable payload ↔
    isUtf8 (serializeDetections payload) = true ∧
      ∀ d ∈ payload.detections, ∀ x ∈ numbersOf d, (formatDouble x).getLast? ≠ some 46 := by
  refine and_congr_right fun _ => ?_
  have htree : literals (documentOf payload).tree =
      elemsLiterals ((payload.detections.map documentItem).map DocumentItem.tree) := by
    simp only [Document.tree, documentOf, literals, membersLiterals, Bool.and_true, Bool.true_and]
  rw [htree, elemsLiterals_iff, List.forall_mem_map, List.forall_mem_map]
  exact forall₂_congr fun d _ => literals_item d

/-! ## the handler on such a body -/

theorem handle_serialized (payload : DetectionJsonPayload) : handle (serializeDetections payload) =
    if Readable payload then { printed := printedOf (documentOf payload), status := some 204 }
    else { status := some 400 } := by
  rw [handle, loads_serialized]
  by_cases hr : Readable payload
  · rw [if_pos hr, if_pos hr]
    show (⟨_, _⟩ : Outcome) = _
    rw [printedOf]
    simp only [List.length_map, List.map_map]
    rfl
  · rw [if_neg hr, if_neg hr]

/-- Of a beginning nothing is printed, unless it is all of the text. -/
theorem handle_beginning {payload : DetectionJsonPayload} {p : Bytes} (hp : p <+: serializeDetections payload) :
    p = serializeDetections payload ∨ (handle p).printed = [] ∧ (handle p).status ∈ [none, some 400] := by
  unfold handle
  split
  · exact .inr ⟨rfl, by simp⟩
  · rename_i members hl
    exact .inl (loads_beginning hp hl)
  · exact .inr ⟨rfl, by simp⟩

/-- what the handler does when it can read the beginning of such a body -/
theorem doPost_beginning (headers : List (Bytes × Bytes)) {payload : DetectionJsonPayload} {rfile : Bytes}
    (hr : rfile <+: serializeDetections payload) :
    Readable payload ∧ doPost headers rfile = { printed := printedOf (documentOf payload), status := some 204 } ∨
      (doPost headers rfile).printed = [] ∧ (doPost headers rfile).status ∈ [none, some 400] := by
  unfold doPost
  split
  · exact .inr ⟨rfl, by simp⟩
  · rename_i length _
    have hbegin : (if length > 0 then rfile.take length.toNat else []) <+: serializeDetections payload := by
      split
      · exact (List.take_prefix _ _).trans hr
      · exact List.nil_prefix
    rcases handle_beginning hbegin with he | he
    · rw [he, handle_serialized]
      by_cases hread : Readable payload
      · rw [if_pos hread]
        exact .inl ⟨hread, rfl⟩
      · rw [if_neg hread]
        exact .inr ⟨rfl, by simp⟩
    · exact .inr he

/-! ## all of the body -/

theorem dropWhile_space {s : Bytes} (h : ∀ c ∈ s, isDigit c = true) :
    (s.dropWhile pySpace).rdropWhile pySpace = s := by
  have hs : ∀ c ∈ s, ¬ pySpace c = true := by
    intro c hc hsp
    have hd : ∀ c : UInt8, isDigit c = true → pySpace c = false := by decide +kernel
    exact absurd ((hd c (h c hc)).symm.trans hsp) (by decide)
  rw [List.dropWhile_eq_self_iff.mpr fun hl => hs _ (List.getElem_mem hl),
    List.rdropWhile_eq_self_iff.mpr fun hl => hs _ (List.getLast_mem hl)]

theorem pySign_of_ne {s : Bytes} (h : ∀ c ∈ s, c ≠ 45 ∧ c ≠ 43) : pySign s = (false, s) := by
  unfold pySign
  split
  · exact absurd rfl (h 45 List.mem_cons_self).1
  · exact absurd rfl (h 43 List.mem_cons_self).2
  · rfl

theorem pyInt_decimal (n : Nat) : pyInt (decimal n) = some ((n : Nat) : Int) := by
  have hdigits := decimal_isDigit n
  have hsign : ∀ c ∈ decimal n, c ≠ 45 ∧ c ≠ 43 ∧ c ≠ 95 := by
    intro c hc
    have hd : ∀ c : UInt8, isDigit c = true → c ≠ 45 ∧ c ≠ 43 ∧ c ≠ 95 := by decide +kernel
    exact hd c (hdigits c hc)
  have hgroups : (decimal n).splitOn 95 = [decimal n] := splitOn_of_not_mem fun hm => (hsign 95 hm).2.2 rfl
  have hall : ([decimal n].all fun g => !g.isEmpty && g.all isDigit) = true := by
    rw [List.all_cons, List.all_nil, Bool.and_true, Bool.and_eq_true, List.all_eq_true]
    exact ⟨by simp [decimal_ne_nil], hdigits⟩
  rw [pyInt, dropWhile_space hdigits, pySign_of_ne fun c hc => ⟨(hsign c hc).1, (hsign c hc).2.1⟩]
  dsimp only
  rw [hgroups, if_pos hall, List.flatten_singleton, readDigits_decimal]
  rfl

/-- With the length of the body in the header, and the body behind it. -/
theorem doPost_whole {headers : List (Bytes × Bytes)} {payload : DetectionJsonPayload}
    (hl : headersGet headers (lit "Content-Length") = some (decimal (serializeDetections payload).length)) :
    doPost headers (serializeDetections payload) =
      if Readable payload then { printed := printedOf (documentOf payload), status := some 204 }
      else { status := some 400 } := by
  have hlength : contentLength headers = some (((serializeDetections payload).length : Nat) : Int) := by
    rw [contentLength, hl, Option.getD_some, if_neg (decimal_ne_nil _), pyInt_decimal]
  obtain ⟨text, htext⟩ := serialized_last payload
  have hpos : ((serializeDetections payload).length : Int) > 0 := by
    rw [htext, List.length_append]
    exact Int.natCast_pos.mpr (Nat.succ_pos _)
  rw [doPost, hlength]
  dsimp only
  rw [if_pos hpos, Int.toNat_natCast, List.take_length, handle_serialized]

end VD.Receiver
