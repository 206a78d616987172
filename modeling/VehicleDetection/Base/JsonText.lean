import VehicleDetection.Base.Bytes

/-!
# JSON text

A reader of JSON texts in two passes, each a machine that takes one letter at a time:

* `Lexer.step`, `lex`   bytes to tokens; a token that is not a string is the longest run of bytes that
                        are no delimiters;
* `step`, `parse`       tokens to a `Tree`, with a stack of open containers;
* `read`                both.

`Tree.render esc` prints a tree, with strings escaped by `esc`. `read_render`: what is printed is read
back, for every escaping that the lexer undoes byte by byte (`Escapes`).
-/

set_option linter.unusedVariables false

namespace JsonText
open BStr

inductive Token
  | punct (c : UInt8)
  | str (s : Bytes)
  | bare (s : Bytes)
deriving DecidableEq

/-- blank, tab, line feed, carriage return -/
def isBlank (c : UInt8) : Bool := c == 32 || c == 9 || c == 10 || c == 13

/-- braces, brackets, colon and comma -/
def isPunct (c : UInt8) : Bool :=
  c == 123 || c == 125 || c == 91 || c == 93 || c == 58 || c == 44

/-- 34 is the quote -/
def isDelimiter (c : UInt8) : Bool := isBlank c || isPunct c || c == 34

/-! ## the lexer -/

inductive Mode
  | between
  | bare (acc : Bytes)
  | str (acc : Bytes)
  | escape (acc : Bytes)
  | hex (acc : Bytes) (left value : Nat)
deriving DecidableEq

structure Lexer where
  tokens : List Token
  mode : Mode
deriving DecidableEq

def hexValue (c : UInt8) : Option Nat :=
  if 48 ≤ c ∧ c ≤ 57 then some (c.toNat - 48)
  else if 97 ≤ c ∧ c ≤ 102 then some (c.toNat - 87)
  else if 65 ≤ c ∧ c ≤ 70 then some (c.toNat - 55)
  else none

/-- the byte behind a backslash, for the escapes of one letter -/
def escaped (c : UInt8) : Option UInt8 :=
  if c = 34 ∨ c = 92 ∨ c = 47 then some c
  else if c = 98 then some 8
  else if c = 102 then some 12
  else if c = 110 then some 10
  else if c = 114 then some 13
  else if c = 116 then some 9
  else none

/-- a code point as UTF-8; surrogates are not read -/
def codePoint (n : Nat) : Option Bytes :=
  if n < 0xD800 ∨ 0xE000 ≤ n then some (String.utf8EncodeChar (Char.ofNat n)) else none

namespace Lexer

def start : Lexer := ⟨[], .between⟩

def startToken (tokens : List Token) (c : UInt8) : Lexer :=
  if isBlank c then ⟨tokens, .between⟩
  else if isPunct c then ⟨tokens ++ [.punct c], .between⟩
  else if c = 34 then ⟨tokens, .str []⟩
  else ⟨tokens, .bare [c]⟩

def step (l : Lexer) (c : UInt8) : Option Lexer :=
  match l.mode with
  | .between => some (startToken l.tokens c)
  | .bare acc =>
    if isDelimiter c then some (startToken (l.tokens ++ [.bare acc]) c)
    else some ⟨l.tokens, .bare (acc ++ [c])⟩
  | .str acc =>
    if c = 34 then some ⟨l.tokens ++ [.str acc], .between⟩
    else if c = 92 then some ⟨l.tokens, .escape acc⟩
    else if c < 32 then none
    else some ⟨l.tokens, .str (acc ++ [c])⟩
  | .escape acc =>
    if c = 117 then some ⟨l.tokens, .hex acc 4 0⟩
    else (escaped c).map fun d => ⟨l.tokens, .str (acc ++ [d])⟩
  | .hex acc left value =>
    (hexValue c).bind fun d =>
      if left = 1 then (codePoint (16 * value + d)).map fun u => ⟨l.tokens, .str (acc ++ u)⟩
      else some ⟨l.tokens, .hex acc (left - 1) (16 * value + d)⟩

/-- the tokens at the end of the text -/
def finish (l : Lexer) : Option (List Token) :=
  match l.mode with
  | .between => some l.tokens
  | .bare acc => some (l.tokens ++ [.bare acc])
  | .str _ | .escape _ | .hex _ _ _ => none

end Lexer

def lex (s : Bytes) : Option (List Token) := (s.foldlM Lexer.step Lexer.start).bind Lexer.finish

/-! ## the parser -/

inductive Tree
  | str (s : Bytes)
  | bare (s : Bytes)
  | arr (elems : List Tree)
  | obj (members : List (Bytes × Tree))

/-- an open container: what has been read of it, and the key whose value is being read -/
inductive Frame
  | elems (done : List Tree)
  | members (done : List (Bytes × Tree)) (key : Bytes)

/-- what may follow: a value, a value or the end of an array just opened, a key or the end of an object
just opened, a key, the colon behind a key, or what stands behind a value -/
inductive Expect
  | value
  | first
  | firstKey
  | key (done : List (Bytes × Tree))
  | colon (done : List (Bytes × Tree)) (key : Bytes)
  | behind (v : Tree)

structure Parser where
  expect : Expect
  frames : List Frame

namespace Parser

def start : Parser := ⟨.value, []⟩

/-- the first token of a value -/
def startValue (frames : List Frame) : Token → Option Parser
  | .str s => some ⟨.behind (.str s), frames⟩
  | .bare s => some ⟨.behind (.bare s), frames⟩
  | .punct c =>
    if c = 91 then some ⟨.first, .elems [] :: frames⟩
    else if c = 123 then some ⟨.firstKey, frames⟩
    else none

def step (p : Parser) (t : Token) : Option Parser :=
  match p.expect, t, p.frames with
  | .value, t, frames => startValue frames t
  | .first, t, .elems [] :: frames =>
    if t = .punct 93 then some ⟨.behind (.arr []), frames⟩ else startValue (.elems [] :: frames) t
  | .firstKey, .punct c, frames => if c = 125 then some ⟨.behind (.obj []), frames⟩ else none
  | .firstKey, .str k, frames => some ⟨.colon [] k, frames⟩
  | .key done, .str k, frames => some ⟨.colon done k, frames⟩
  | .colon done k, .punct c, frames =>
    if c = 58 then some ⟨.value, .members done k :: frames⟩ else none
  | .behind v, .punct c, .elems done :: frames =>
    if c = 44 then some ⟨.value, .elems (done ++ [v]) :: frames⟩
    else if c = 93 then some ⟨.behind (.arr (done ++ [v])), frames⟩
    else none
  | .behind v, .punct c, .members done k :: frames =>
    if c = 44 then some ⟨.key (done ++ [(k, v)]), frames⟩
    else if c = 125 then some ⟨.behind (.obj (done ++ [(k, v)])), frames⟩
    else none
  | _, _, _ => none

def finish (p : Parser) : Option Tree :=
  match p.expect, p.frames with
  | .behind v, [] => some v
  | _, _ => none

end Parser

def parse (ts : List Token) : Option Tree := (ts.foldlM Parser.step Parser.start).bind Parser.finish

def read (s : Bytes) : Option Tree := (lex s).bind parse

/-! ## printing -/

def Token.text (esc : UInt8 → Bytes) : Token → Bytes
  | .punct c => [c]
  | .str s => 34 :: s.flatMap esc ++ [34]
  | .bare s => s

mutual

/-- the tokens of a tree -/
def Tree.tokens : Tree → List Token
  | .str s => [.str s]
  | .bare s => [.bare s]
  | .arr [] => [.punct 91, .punct 93]
  | .arr (v :: vs) => .punct 91 :: v.tokens ++ elemsTokens vs
  | .obj [] => [.punct 123, .punct 125]
  | .obj ((k, v) :: ms) => .punct 123 :: .str k :: .punct 58 :: v.tokens ++ membersTokens ms

/-- the rest of an array -/
def elemsTokens : List Tree → List Token
  | [] => [.punct 93]
  | v :: vs => .punct 44 :: v.tokens ++ elemsTokens vs

/-- the rest of an object -/
def membersTokens : List (Bytes × Tree) → List Token
  | [] => [.punct 125]
  | (k, v) :: ms => .punct 44 :: .str k :: .punct 58 :: v.tokens ++ membersTokens ms

end

def Tree.render (esc : UInt8 → Bytes) (v : Tree) : Bytes := v.tokens.flatMap (Token.text esc)

theorem elemsTokens_flatMap (f : Token → Bytes) (vs : List Tree) :
    (elemsTokens vs).flatMap f =
      (vs.flatMap fun v => f (.punct 44) ++ v.tokens.flatMap f) ++ f (.punct 93) := by
  induction vs with
  | nil => rw [elemsTokens]; simp
  | cons v vs ih =>
    rw [elemsTokens]
    simp [ih]

/-- an array is printed with commas between its elements -/
theorem render_arr (esc : UInt8 → Bytes) (vs : List Tree) :
    (Tree.arr vs).render esc = 91 :: List.intercalate [44] (vs.map (Tree.render esc)) ++ [93] := by
  cases vs with
  | nil => rw [Tree.render, Tree.tokens]; rfl
  | cons v vs =>
    have hi : List.intercalate [44] ((v :: vs).map (Tree.render esc)) =
        v.render esc ++ vs.flatMap fun w => 44 :: w.render esc := by
      induction vs generalizing v with
      | nil => simp
      | cons w vs ih =>
        rw [List.map_cons, List.map_cons, List.intercalate_cons_cons, ← List.map_cons, ih w]
        simp
    rw [hi, Tree.render, Tree.tokens, List.flatMap_append, elemsTokens_flatMap]
    simp [Token.text, Tree.render]

/-! ## the parser reads the tokens of a tree -/

theorem head_tokens (v : Tree) : ∃ t ts, v.tokens = t :: ts ∧ t ≠ .punct 93 := by
  cases v with
  | str s => exact ⟨.str s, [], by rw [Tree.tokens], nofun⟩
  | bare s => exact ⟨.bare s, [], by rw [Tree.tokens], nofun⟩
  | arr vs =>
    cases vs with
    | nil => exact ⟨_, _, by rw [Tree.tokens], by decide⟩
    | cons v vs => exact ⟨_, _, by rw [Tree.tokens, List.cons_append], by decide⟩
  | obj ms =>
    cases ms with
    | nil => exact ⟨_, _, by rw [Tree.tokens], by decide⟩
    | cons m ms => exact ⟨_, _, by rw [Tree.tokens]; rfl, by decide⟩

/-- the first element of an array is read like any value -/
theorem run_first (v : Tree) (frames : List Frame) :
    v.tokens.foldlM Parser.step ⟨.first, .elems [] :: frames⟩ =
      v.tokens.foldlM Parser.step ⟨.value, .elems [] :: frames⟩ := by
  obtain ⟨t, ts, e, ht⟩ := head_tokens v
  rw [e, List.foldlM_cons, List.foldlM_cons]
  have hs : Parser.step ⟨.first, .elems [] :: frames⟩ t =
      Parser.step ⟨.value, .elems [] :: frames⟩ t := if_neg ht
  rw [hs]

mutual

/-- behind the tokens of a value stands that value -/
theorem run_tokens : ∀ (v : Tree) (frames : List Frame),
    v.tokens.foldlM Parser.step ⟨.value, frames⟩ = some ⟨.behind v, frames⟩
  | .str s, frames => by rw [Tree.tokens]; rfl
  | .bare s, frames => by rw [Tree.tokens]; rfl
  | .arr [], frames => by rw [Tree.tokens]; rfl
  | .arr (v :: vs), frames => by
    rw [Tree.tokens, List.cons_append, List.foldlM_cons]
    show (v.tokens ++ elemsTokens vs).foldlM Parser.step ⟨.first, .elems [] :: frames⟩ = _
    rw [List.foldlM_append, run_first, run_tokens v]
    exact run_elems vs v [] frames
  | .obj [], frames => by rw [Tree.tokens]; rfl
  | .obj ((k, v) :: ms), frames => by
    rw [Tree.tokens]
    show (v.tokens ++ membersTokens ms).foldlM Parser.step ⟨.value, .members [] k :: frames⟩ = _
    rw [List.foldlM_append, run_tokens v]
    exact run_members ms v [] k frames

theorem run_elems : ∀ (vs : List Tree) (v : Tree) (done : List Tree) (frames : List Frame),
    (elemsTokens vs).foldlM Parser.step ⟨.behind v, .elems done :: frames⟩ =
      some ⟨.behind (.arr (done ++ v :: vs)), frames⟩
  | [], v, done, frames => by rw [elemsTokens]; rfl
  | w :: vs, v, done, frames => by
    rw [elemsTokens]
    show (w.tokens ++ elemsTokens vs).foldlM Parser.step ⟨.value, .elems (done ++ [v]) :: frames⟩ = _
    rw [List.foldlM_append, run_tokens w]
    apply (run_elems vs w (done ++ [v]) frames).trans
    rw [List.append_assoc, List.singleton_append]

theorem run_members : ∀ (ms : List (Bytes × Tree)) (v : Tree) (done : List (Bytes × Tree)) (k : Bytes)
    (frames : List Frame),
    (membersTokens ms).foldlM Parser.step ⟨.behind v, .members done k :: frames⟩ =
      some ⟨.behind (.obj (done ++ (k, v) :: ms)), frames⟩
  | [], v, done, k, frames => by rw [membersTokens]; rfl
  | (l, w) :: ms, v, done, k, frames => by
    rw [membersTokens]
    show (w.tokens ++ membersTokens ms).foldlM Parser.step
      ⟨.value, .members (done ++ [(k, v)]) l :: frames⟩ = _
    rw [List.foldlM_append, run_tokens w]
    apply (run_members ms w (done ++ [(k, v)]) l frames).trans
    rw [List.append_assoc, List.singleton_append]

end

theorem parse_tokens (v : Tree) : parse v.tokens = some v := by
  rw [parse, Parser.start, run_tokens]
  rfl

/-! ## the lexer reads the text of tokens -/

/-- the lexer undoes the escaping of every byte -/
def Escapes (esc : UInt8 → Bytes) : Prop :=
  ∀ c tokens acc, (esc c).foldlM Lexer.step ⟨tokens, .str acc⟩ = some ⟨tokens, .str (acc ++ [c])⟩

/-- the token is one that its text is read as -/
def Token.Valid : Token → Prop
  | .punct c => isPunct c = true
  | .str _ => True
  | .bare s => s ≠ [] ∧ ∀ c ∈ s, isDelimiter c = false

def Token.IsBare : Token → Prop
  | .bare _ => True
  | _ => False

/-- no two tokens without a delimiter between them -/
abbrev Separate (ts : List Token) : Prop := ts.IsChain fun a b => a.IsBare → ¬ b.IsBare

section
variable {esc : UInt8 → Bytes}

theorem run_str (h : Escapes esc) (s : Bytes) (tokens : List Token) (acc : Bytes) :
    (s.flatMap esc).foldlM Lexer.step ⟨tokens, .str acc⟩ = some ⟨tokens, .str (acc ++ s)⟩ := by
  induction s generalizing acc with
  | nil => rw [List.append_nil]; rfl
  | cons c s ih =>
    rw [List.flatMap_cons, List.foldlM_append, h]
    apply (ih (acc ++ [c])).trans
    rw [List.append_assoc, List.singleton_append]

theorem run_bare {s : Bytes} (h : ∀ c ∈ s, isDelimiter c = false) (tokens : List Token) (acc : Bytes) :
    s.foldlM Lexer.step ⟨tokens, .bare acc⟩ = some ⟨tokens, .bare (acc ++ s)⟩ := by
  induction s generalizing acc with
  | nil => rw [List.append_nil]; rfl
  | cons c s ih =>
    have hc : Lexer.step ⟨tokens, .bare acc⟩ c = some ⟨tokens, .bare (acc ++ [c])⟩ :=
      if_neg (by rw [h c List.mem_cons_self]; nofun)
    rw [List.foldlM_cons, hc]
    refine (ih (fun d hd => h d (List.mem_cons_of_mem _ hd)) (acc ++ [c])).trans ?_
    rw [List.append_assoc, List.singleton_append]

/-- where the lexer stands behind a token -/
def behind (tokens : List Token) : Token → Lexer
  | .bare s => ⟨tokens, .bare s⟩
  | t => ⟨tokens ++ [t], .between⟩

theorem finish_behind (tokens : List Token) (t : Token) :
    (behind tokens t).finish = some (tokens ++ [t]) := by
  cases t <;> rfl

theorem not_delimiter {c : UInt8} (h : isDelimiter c = false) :
    isBlank c = false ∧ isPunct c = false ∧ c ≠ 34 := by
  simpa [isDelimiter, and_assoc] using h

theorem isDelimiter_of_isPunct {c : UInt8} (h : isPunct c = true) : isDelimiter c = true := by
  rw [isDelimiter, h, Bool.or_true, Bool.true_or]

theorem not_blank_of_isPunct {c : UInt8} (h : isPunct c = true) : isBlank c = false := by
  have hc : ∀ d : UInt8, isPunct d = true → isBlank d = false := by decide +kernel
  exact hc c h

theorem run_text (hesc : Escapes esc) {t : Token} (ht : t.Valid) (tokens : List Token) :
    (t.text esc).foldlM Lexer.step ⟨tokens, .between⟩ = some (behind tokens t) := by
  cases t with
  | punct c =>
    have hp : isPunct c = true := ht
    have hc : Lexer.startToken tokens c = ⟨tokens ++ [.punct c], .between⟩ := by
      rw [Lexer.startToken, not_blank_of_isPunct hp, if_neg nofun, if_pos hp]
    show some (Lexer.startToken tokens c) = _
    rw [hc]
    rfl
  | str s =>
    show (s.flatMap esc ++ [34]).foldlM Lexer.step ⟨tokens, .str []⟩ = _
    rw [List.foldlM_append, run_str hesc]
    rfl
  | bare s =>
    obtain ⟨c, s, rfl⟩ := List.exists_cons_of_ne_nil ht.1
    obtain ⟨hb, hp, hq⟩ := not_delimiter (ht.2 c List.mem_cons_self)
    have hc : Lexer.startToken tokens c = ⟨tokens, .bare [c]⟩ := by
      rw [Lexer.startToken, hb, hp, if_neg nofun, if_neg nofun, if_neg hq]
    show s.foldlM Lexer.step (Lexer.startToken tokens c) = _
    rw [hc, run_bare (fun d hd => ht.2 d (List.mem_cons_of_mem _ hd))]
    rfl

/-- a delimiter ends a token that is not a string -/
theorem run_behind_bare {s : Bytes} {t : Token} (ht : t.Valid) (hb : ¬ t.IsBare) (tokens : List Token) :
    (t.text esc).foldlM Lexer.step ⟨tokens, .bare s⟩ =
      (t.text esc).foldlM Lexer.step ⟨tokens ++ [.bare s], .between⟩ := by
  have key : ∀ (c : UInt8) (rest : Bytes), isDelimiter c = true →
      (c :: rest).foldlM Lexer.step ⟨tokens, .bare s⟩ =
        (c :: rest).foldlM Lexer.step ⟨tokens ++ [.bare s], .between⟩ := by
    intro c rest hc
    have hs : Lexer.step ⟨tokens, .bare s⟩ c = Lexer.step ⟨tokens ++ [.bare s], .between⟩ c := if_pos hc
    rw [List.foldlM_cons, List.foldlM_cons, hs]
  cases t with
  | punct c => exact key c [] (isDelimiter_of_isPunct ht)
  | str s => exact key 34 _ (by decide)
  | bare s => exact absurd trivial hb

theorem run_behind (hesc : Escapes esc) {a b : Token} (hb : b.Valid) (hab : a.IsBare → ¬ b.IsBare)
    (tokens : List Token) :
    (b.text esc).foldlM Lexer.step (behind tokens a) = some (behind (tokens ++ [a]) b) := by
  cases a with
  | punct c | str s => exact run_text hesc hb _
  | bare s =>
    show (b.text esc).foldlM Lexer.step ⟨tokens, .bare s⟩ = _
    rw [run_behind_bare hb (hab trivial)]
    exact run_text hesc hb _

theorem run_texts (hesc : Escapes esc) {ts : List Token} :
    ∀ {a : Token} (tokens : List Token), (∀ t ∈ ts, t.Valid) → Separate (a :: ts) →
      ((ts.flatMap (Token.text esc)).foldlM Lexer.step (behind tokens a)).bind Lexer.finish =
        some (tokens ++ a :: ts) := by
  induction ts with
  | nil =>
    intro a tokens _ _
    exact finish_behind tokens a
  | cons b ts ih =>
    intro a tokens hv hs
    obtain ⟨hab, hs⟩ := List.isChain_cons_cons.mp hs
    rw [List.flatMap_cons, List.foldlM_append, run_behind hesc (hv b List.mem_cons_self) hab]
    refine (ih (tokens ++ [a]) (fun t ht => hv t (List.mem_cons_of_mem _ ht)) hs).trans ?_
    rw [List.append_assoc, List.singleton_append]

/-- the text of tokens is read as these tokens -/
theorem lex_text (hesc : Escapes esc) {ts : List Token} (hv : ∀ t ∈ ts, t.Valid) (hs : Separate ts) :
    lex (ts.flatMap (Token.text esc)) = some ts := by
  cases ts with
  | nil => rfl
  | cons t ts =>
    rw [lex, List.flatMap_cons, List.foldlM_append, Lexer.start, run_text hesc (hv t List.mem_cons_self)]
    exact run_texts hesc [] (fun u hu => hv u (List.mem_cons_of_mem _ hu)) hs

end

/-! ## what is printed is read back -/

mutual

/-- every text of the tree that is no string is a token -/
def Tree.Valid : Tree → Prop
  | .str _ => True
  | .bare s => s ≠ [] ∧ ∀ c ∈ s, isDelimiter c = false
  | .arr vs => ElemsValid vs
  | .obj ms => MembersValid ms

def ElemsValid : List Tree → Prop
  | [] => True
  | v :: vs => v.Valid ∧ ElemsValid vs

def MembersValid : List (Bytes × Tree) → Prop
  | [] => True
  | (_, v) :: ms => v.Valid ∧ MembersValid ms

end

theorem Tree.valid_bare {s : Bytes} :
    (Tree.bare s).Valid ↔ s ≠ [] ∧ ∀ c ∈ s, isDelimiter c = false := by
  rw [Tree.Valid]

theorem Separate.cons {a : Token} {ts : List Token} (ha : ¬ a.IsBare) (h : Separate ts) :
    Separate (a :: ts) :=
  List.isChain_cons.mpr ⟨fun _ _ hb => absurd hb ha, h⟩

/-- tokens that the lexer reads, the first of them marking the end of a value before it -/
structure Follows (ts : List Token) : Prop where
  valid : ∀ t ∈ ts, t.Valid
  separate : Separate ts
  head : ∀ t ∈ ts.head?, ¬ t.IsBare

theorem Follows.nil : Follows [] := ⟨nofun, .nil, nofun⟩

theorem Follows.cons {t : Token} {ts : List Token} (hv : t.Valid) (ht : ¬ t.IsBare)
    (h : ∀ u ∈ ts, u.Valid) (hs : Separate ts) : Follows (t :: ts) where
  valid := List.forall_mem_cons.mpr ⟨hv, h⟩
  separate := hs.cons ht
  head u hu := Option.some.inj hu ▸ ht

theorem Follows.member (k : Bytes) {ts : List Token} (h : ∀ t ∈ ts, t.Valid) (hs : Separate ts) :
    Follows (.str k :: .punct 58 :: ts) :=
  have hc : Follows (.punct 58 :: ts) := .cons rfl id h hs
  .cons trivial id hc.valid hc.separate

mutual

theorem tokens_follows : ∀ (v : Tree) (rest : List Token), v.Valid → Follows rest →
    (∀ t ∈ v.tokens ++ rest, t.Valid) ∧ Separate (v.tokens ++ rest)
  | .str s, rest, _, h => by
    rw [Tree.tokens]
    exact ⟨List.forall_mem_cons.mpr ⟨trivial, h.valid⟩, h.separate.cons id⟩
  | .bare s, rest, hv, h => by
    rw [Tree.valid_bare] at hv
    rw [Tree.tokens]
    exact ⟨List.forall_mem_cons.mpr ⟨hv, h.valid⟩,
      List.isChain_cons.mpr ⟨fun t ht _ => h.head t ht, h.separate⟩⟩
  | .arr [], rest, _, h => by
    rw [Tree.tokens]
    have he : Follows (.punct 93 :: rest) := .cons rfl id h.valid h.separate
    exact ⟨List.forall_mem_cons.mpr ⟨rfl, he.valid⟩, he.separate.cons id⟩
  | .arr (v :: vs), rest, hv, h => by
    rw [Tree.Valid, ElemsValid] at hv
    rw [Tree.tokens, List.cons_append, List.cons_append, List.append_assoc]
    obtain ⟨h₁, h₂⟩ := tokens_follows v _ hv.1 (elems_follows vs rest hv.2 h)
    exact ⟨List.forall_mem_cons.mpr ⟨rfl, h₁⟩, h₂.cons id⟩
  | .obj [], rest, _, h => by
    rw [Tree.tokens]
    have he : Follows (.punct 125 :: rest) := .cons rfl id h.valid h.separate
    exact ⟨List.forall_mem_cons.mpr ⟨rfl, he.valid⟩, he.separate.cons id⟩
  | .obj ((k, v) :: ms), rest, hv, h => by
    rw [Tree.Valid, MembersValid] at hv
    obtain ⟨h₁, h₂⟩ := tokens_follows v _ hv.1 (members_follows ms rest hv.2 h)
    have hm := Follows.member k h₁ h₂
    have e : (Tree.obj ((k, v) :: ms)).tokens ++ rest =
        .punct 123 :: .str k :: .punct 58 :: (v.tokens ++ (membersTokens ms ++ rest)) := by
      rw [Tree.tokens]
      simp only [List.cons_append, List.append_assoc]
    rw [e]
    exact ⟨List.forall_mem_cons.mpr ⟨rfl, hm.valid⟩, hm.separate.cons id⟩

theorem elems_follows : ∀ (vs : List Tree) (rest : List Token), ElemsValid vs → Follows rest →
    Follows (elemsTokens vs ++ rest)
  | [], rest, _, h => by
    rw [elemsTokens]
    exact .cons rfl id h.valid h.separate
  | v :: vs, rest, hv, h => by
    rw [ElemsValid] at hv
    rw [elemsTokens, List.cons_append, List.cons_append, List.append_assoc]
    obtain ⟨h₁, h₂⟩ := tokens_follows v _ hv.1 (elems_follows vs rest hv.2 h)
    exact .cons rfl id h₁ h₂

theorem members_follows : ∀ (ms : List (Bytes × Tree)) (rest : List Token), MembersValid ms →
    Follows rest → Follows (membersTokens ms ++ rest)
  | [], rest, _, h => by
    rw [membersTokens]
    exact .cons rfl id h.valid h.separate
  | (k, v) :: ms, rest, hv, h => by
    rw [MembersValid] at hv
    obtain ⟨h₁, h₂⟩ := tokens_follows v _ hv.1 (members_follows ms rest hv.2 h)
    have hm := Follows.member k h₁ h₂
    have e : membersTokens ((k, v) :: ms) ++ rest =
        .punct 44 :: .str k :: .punct 58 :: (v.tokens ++ (membersTokens ms ++ rest)) := by
      rw [membersTokens]
      simp only [List.cons_append, List.append_assoc]
    rw [e]
    exact .cons rfl id hm.valid hm.separate

end

/-- **A printed tree is read back.** -/
theorem read_render {esc : UInt8 → Bytes} (hesc : Escapes esc) {v : Tree} (hv : v.Valid) :
    read (v.render esc) = some v := by
  obtain ⟨h₁, h₂⟩ := tokens_follows v [] hv .nil
  rw [List.append_nil] at h₁ h₂
  rw [read, Tree.render, lex_text hesc h₁ h₂]
  exact parse_tokens v

end JsonText
