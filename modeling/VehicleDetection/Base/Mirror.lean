import Mathlib

/-!
# A record kept beside a store

A store maps keys to typed values.  Beside it a program keeps a record of the same values, which
it builds once and then patches with every batch of new entries, checking each time before it
commits.

* `Record`         how the record is built, patched and checked;
* `change`         a batch: patch and check;
* `Lawful`         `rel st s`: the record `s` is up to date with the store `st`;
* `step`           one batch: a batch that is typed and accepted is stored, any other changes nothing;
* `change_eq`      a batch is judged as a record built from the store after it would be;
* `Inv.step`       an up-to-date and checked record stays so;
* `Inv.step_cases`  a batch is stored exactly if the record could be built anew with it;
* `Shows`          up to date, for a record that can list its fields as entries.
-/

set_option linter.unusedVariables false
set_option linter.unusedSectionVars false

namespace Mirror

section
variable {K V T E R S : Type} [DecidableEq K]

abbrev Store (K V : Type) := K → Option V

def set (st : Store K V) (e : K × V) : Store K V := Function.update st e.1 (some e.2)

def setAll (st : Store K V) (batch : List (K × V)) : Store K V := batch.foldl set st

theorem set_self (st : Store K V) (e : K × V) : set st e e.1 = some e.2 := Function.update_self ..

theorem set_of_ne (st : Store K V) {e : K × V} {k : K} (h : k ≠ e.1) : set st e k = st k :=
  Function.update_of_ne h ..

/-- every entry of the batch replaces a stored value of its own type -/
def Typed (type : V → T) (st : Store K V) (batch : List (K × V)) : Prop :=
  ∀ e ∈ batch, (st e.1).map type = some (type e.2)

instance (type : V → T) [DecidableEq T] (st : Store K V) (batch : List (K × V)) :
    Decidable (Typed type st batch) := inferInstanceAs (Decidable (∀ e ∈ batch, _))

theorem set_type (type : V → T) {st : Store K V} {e : K × V}
    (h : (st e.1).map type = some (type e.2)) (k : K) : (set st e k).map type = (st k).map type := by
  by_cases hk : k = e.1
  · subst hk
    rw [set_self, h]
    rfl
  · rw [set_of_ne st hk]

theorem Typed.tail {type : V → T} {st : Store K V} {e : K × V} {batch : List (K × V)}
    (h : Typed type st (e :: batch)) : Typed type (set st e) batch := by
  intro e' he'
  rw [set_type type (h e List.mem_cons_self)]
  exact h e' (List.mem_cons_of_mem _ he')

/-- a typed batch leaves the type of every key as it is -/
theorem setAll_type {type : V → T} {batch : List (K × V)} :
    ∀ {st : Store K V}, Typed type st batch → ∀ k, (setAll st batch k).map type = (st k).map type := by
  induction batch with
  | nil => exact fun h k => rfl
  | cons e batch ih =>
    intro st h k
    show (setAll (set st e) batch k).map type = _
    rw [ih h.tail, set_type type (h e List.mem_cons_self)]

theorem setAll_of_not_mem {batch : List (K × V)} {k : K} :
    ∀ {st : Store K V}, (∀ e ∈ batch, e.1 ≠ k) → setAll st batch k = st k := by
  induction batch with
  | nil => exact fun h => rfl
  | cons e batch ih =>
    intro st h
    show setAll (set st e) batch k = _
    rw [ih fun e' he' => h e' (List.mem_cons_of_mem _ he'),
      set_of_ne st (Ne.symm (h e List.mem_cons_self))]

theorem setAll_or {batch : List (K × V)} {k : K} : ∀ {st st' base : Store K V},
    (∀ j, st j = (st' j).or (base j)) → setAll st batch k = (setAll st' batch k).or (base k) := by
  induction batch with
  | nil => exact fun h => h k
  | cons e batch ih =>
    intro st st' base h
    refine @ih (set st e) (set st' e) base fun j => ?_
    by_cases hj : j = e.1
    · rw [hj, set_self, set_self, Option.some_or]
    · rw [set_of_ne st hj, set_of_ne st' hj]
      exact h j

/-- what a batch leaves for a key, and else what has been there -/
theorem setAll_eq (st : Store K V) (batch : List (K × V)) (k : K) :
    setAll st batch k = (setAll (fun _ => none) batch k).or (st k) :=
  setAll_or fun j => (Option.none_or).symm

/-! ## the record -/

/-- `E` are the exceptions of reading a store, `R` the reasons of a failed check -/
structure Record (K V E R S : Type) where
  build : Store K V → Except E S
  patch : S → K × V → Except E S
  check : S → Except R Unit

namespace Record
variable (M : Record K V E R S)

def judge (s : S) : Except R S := (M.check s).map fun _ => s

def patchAll (s : S) (batch : List (K × V)) : Except E S := batch.foldlM M.patch s

def change (s : S) (batch : List (K × V)) : Except E (Except R S) :=
  (M.patchAll s batch).map M.judge

theorem judge_ok {s c : S} : M.judge s = .ok c ↔ M.check s = .ok () ∧ s = c := by
  unfold judge
  cases hc : M.check s with
  | error r => exact iff_of_false (fun h => by cases h) fun h => by cases h.1
  | ok u => exact ⟨fun h => ⟨rfl, Except.ok.inj h⟩, fun h => congrArg Except.ok h.2⟩

end Record

/-- The laws that tie the three functions of a record to the store. -/
structure Lawful (M : Record K V E R S) (type : V → T) (rel : Store K V → S → Prop) : Prop where
  build_rel : ∀ {st s}, M.build st = .ok s → rel st s
  rel_build : ∀ {st s}, rel st s → ∃ s₀, M.build st = .ok s₀ ∧ M.check s₀ = M.check s
  patch_rel : ∀ {st s e}, rel st s → (st e.1).map type = some (type e.2) →
    ∃ s', M.patch s e = .ok s' ∧ rel (set st e) s'

variable {M : Record K V E R S} {type : V → T} {rel : Store K V → S → Prop}

/-- a typed batch never throws, and leaves the record up to date with the new store -/
theorem Lawful.patchAll_rel (L : Lawful M type rel) {batch : List (K × V)} :
    ∀ {st : Store K V} {s : S}, rel st s → Typed type st batch →
      ∃ s', M.patchAll s batch = .ok s' ∧ rel (setAll st batch) s' := by
  induction batch with
  | nil => exact fun h _ => ⟨_, rfl, h⟩
  | cons e batch ih =>
    intro st s h ht
    obtain ⟨s₁, hp, h₁⟩ := L.patch_rel h (ht e List.mem_cons_self)
    obtain ⟨s₂, hp₂, h₂⟩ := ih h₁ ht.tail
    refine ⟨s₂, ?_, h₂⟩
    show M.patch s e >>= (fun x => M.patchAll x batch) = .ok s₂
    rw [hp]
    exact hp₂

/-- A typed batch is judged as a record built from the store after it would be. -/
theorem Lawful.change_eq (L : Lawful M type rel) {st : Store K V} {s : S}
    {batch : List (K × V)} (h : rel st s) (ht : Typed type st batch) :
    ∃ c s₀, M.change s batch = .ok (M.judge c) ∧ rel (setAll st batch) c ∧
      M.build (setAll st batch) = .ok s₀ ∧ M.check s₀ = M.check c := by
  obtain ⟨c, hp, hc⟩ := L.patchAll_rel h ht
  obtain ⟨s₀, hb, he⟩ := L.rel_build hc
  refine ⟨c, s₀, ?_, hc, hb, he⟩
  rw [Record.change, hp]
  rfl

/-- an accepted change gives a checked record that is up to date with the new store -/
theorem Lawful.change_rel (L : Lawful M type rel) {st : Store K V} {s c : S}
    {batch : List (K × V)} (h : rel st s) (ht : Typed type st batch)
    (hc : M.change s batch = .ok (.ok c)) : rel (setAll st batch) c ∧ M.check c = .ok () := by
  obtain ⟨c', s₀, he, h', -⟩ := L.change_eq h ht
  rw [he] at hc
  obtain ⟨hok, rfl⟩ := M.judge_ok.mp (Except.ok.inj hc)
  exact ⟨h', hok⟩

/-! ## runs -/

structure State (K V S : Type) where
  store : Store K V
  record : S

def step [DecidableEq T] (M : Record K V E R S) (type : V → T) (x : State K V S)
    (batch : List (K × V)) : State K V S :=
  if Typed type x.store batch then
    match M.change x.record batch with
    | .ok (.ok c) => ⟨setAll x.store batch, c⟩
    | _ => x
  else x

def run [DecidableEq T] (M : Record K V E R S) (type : V → T) (x : State K V S)
    (batches : List (List (K × V))) : State K V S := batches.foldl (step M type) x

/-- the record is up to date and has passed its check -/
structure Inv (M : Record K V E R S) (rel : Store K V → S → Prop) (x : State K V S) : Prop where
  upToDate : rel x.store x.record
  checked : M.check x.record = .ok ()

theorem Inv.step [DecidableEq T] (L : Lawful M type rel) {x : State K V S} (h : Inv M rel x)
    (batch : List (K × V)) : Inv M rel (step M type x batch) := by
  unfold Mirror.step
  split
  · rename_i ht
    split
    · rename_i c hc
      obtain ⟨h₁, h₂⟩ := L.change_rel h.upToDate ht hc
      exact ⟨h₁, h₂⟩
    · exact h
  · exact h

/-- the batch keeps to the types, and the record could be built anew with it -/
def Passes (M : Record K V E R S) (type : V → T) (st : Store K V) (batch : List (K × V)) : Prop :=
  Typed type st batch ∧ ∃ s, M.build (setAll st batch) = .ok s ∧ M.check s = .ok ()

/-- just these batches are stored -/
theorem Inv.step_cases [DecidableEq T] (L : Lawful M type rel) {x : State K V S} (h : Inv M rel x)
    (batch : List (K × V)) :
    Passes M type x.store batch ∧ (Mirror.step M type x batch).store = setAll x.store batch ∨
      ¬ Passes M type x.store batch ∧ Mirror.step M type x batch = x := by
  by_cases ht : Typed type x.store batch
  · obtain ⟨c, s₀, hchange, -, hbuild, hcheck⟩ := L.change_eq h.upToDate ht
    rw [Mirror.step, if_pos ht, hchange, Record.judge]
    cases hc : M.check c with
    | ok u => exact .inl ⟨⟨ht, s₀, hbuild, hcheck.trans hc⟩, rfl⟩
    | error r =>
      refine .inr ⟨?_, rfl⟩
      rintro ⟨-, s, hs, hok⟩
      cases hbuild.symm.trans hs
      cases hc.symm.trans (hcheck.symm.trans hok)
  · rw [Mirror.step, if_neg ht]
    exact .inr ⟨fun hp => ht hp.1, rfl⟩

theorem Inv.run [DecidableEq T] (L : Lawful M type rel) (batches : List (List (K × V))) :
    ∀ {x : State K V S}, Inv M rel x → Inv M rel (run M type x batches) := by
  induction batches with
  | nil => exact fun h => h
  | cons batch batches ih => exact fun h => ih (h.step L batch)

/-! ## fields listed as entries -/

/-- the store holds every field of the record -/
def Shows (view : S → List (K × V)) (st : Store K V) (s : S) : Prop :=
  ∀ e ∈ view s, st e.1 = some e.2

theorem Shows.congr {view : S → List (K × V)} {st st' : Store K V} {s : S}
    (h : ∀ e ∈ view s, st e.1 = st' e.1) : Shows view st s ↔ Shows view st' s :=
  forall₂_congr fun e he => by rw [h e he]

/-- the same list with the entries of one key replaced -/
def overwrite (e : K × V) (l : List (K × V)) : List (K × V) :=
  l.map fun x => if e.1 = x.1 then e else x

theorem Shows.set {view : S → List (K × V)} {st : Store K V} {s s' : S} (h : Shows view st s)
    (e : K × V) (hv : view s' = overwrite e (view s)) : Shows view (set st e) s' := by
  intro x hx
  rw [hv, overwrite] at hx
  obtain ⟨y, hy, rfl⟩ := List.mem_map.mp hx
  by_cases hk : e.1 = y.1
  · rw [if_pos hk]
    exact set_self st e
  · rw [if_neg hk, set_of_ne st (Ne.symm hk)]
    exact h y hy

/-- an entry has the type of the field it names -/
def Fits (view : S → List (K × V)) (type : V → T) (s : S) (e : K × V) : Prop :=
  ∀ x ∈ view s, e.1 = x.1 → type e.2 = type x.2

theorem Shows.fits {view : S → List (K × V)} {st : Store K V} {s : S} (h : Shows view st s)
    {e : K × V} (ht : (st e.1).map type = some (type e.2)) : Fits view type s e := by
  intro x hx hk
  rw [hk, h x hx] at ht
  exact (Option.some.inj ht).symm

/-- Reading an entry that fits and putting it in the field it names: `read` undoes `wrap`, and the
field `f` sets is the one under the key `k`. -/
theorem Fits.field {A : Type} {view : S → List (K × V)} {t : T} (wrap : A → V)
    (read : V → Except E A) (hw : ∀ v, type v = t → ∃ a, v = wrap a)
    (hr : ∀ a, read (wrap a) = .ok a) {s : S} {e : K × V} (h : Fits view type s e) (k : K) (f : A → S)
    (ht : ((view s).find? (·.1 = k)).map (fun x => type x.2) = some t)
    (hf : ∀ a, view (f a) = overwrite (k, wrap a) (view s)) (hk : e.1 = k) :
    ((read e.2).map f).map view = .ok (overwrite e (view s)) := by
  obtain ⟨x, hx, hxt⟩ := Option.map_eq_some_iff.mp ht
  have hxk : x.1 = k := by simpa using List.find?_some hx
  have het := h x (List.mem_of_find?_eq_some hx) (hk.trans hxk.symm)
  obtain ⟨a, ha⟩ := hw e.2 (het.trans hxt)
  have he : e = (k, wrap a) := Prod.ext hk ha
  rw [he, hr]
  exact congrArg Except.ok (hf a)

theorem overwrite_of_ne {e : K × V} {l : List (K × V)} (h : ∀ x ∈ l, e.1 ≠ x.1) :
    overwrite e l = l := by
  unfold overwrite
  conv_rhs => rw [← List.map_id l]
  exact List.map_congr_left fun x hx => if_neg (h x hx)

end

end Mirror
