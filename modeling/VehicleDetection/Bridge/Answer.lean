import VehicleDetection.Bridge.Post

/-!
# The answers of the bridge as they are printed

* `setContent`            a status and a body that is printed; printing may throw;
* `answerPostParameters`  `POST /api/parameters` with the answer that is sent;
* `answer_raised`         which answers cannot be printed.
-/

set_option linter.unusedVariables false

namespace VD
open BStr

/-- `raised`: printing has thrown, and the exception handler answers with status 500 -/
inductive HttpAnswer where
  | content (status : Nat) (document : Json)
  | raised

/-- `res.set_content(body.dump(), "application/json")` -/
def setContent (status : Nat) (body : Json) : HttpAnswer :=
  match body.printed with
  | some document => .content status document
  | none => .raised

theorem setContent_raised (status : Nat) (body : Json) : setContent status body = .raised ↔ ¬ Utf8 body.strings := by
  rw [← printed_isSome, setContent]
  cases body.printed with
  | none => exact iff_of_true rfl Bool.noConfusion
  | some document => exact iff_of_false HttpAnswer.noConfusion fun h => h rfl

theorem setContent_content {status : Nat} {body document : Json} {code : Nat} :
    setContent status body = .content code document ↔ code = status ∧ body.printed = some document := by
  rw [setContent]
  cases body.printed with
  | none => exact iff_of_false HttpAnswer.noConfusion fun h => Option.some_ne_none document h.2.symm
  | some v =>
    rw [HttpAnswer.content.injEq, Option.some.injEq, eq_comm]

/-! ## `POST` -/

/-- an answer that sets no status has 200 -/
def Response.status : Response → Nat
  | .error status _ => status
  | .body _ => 200

/-- the body of `respond_error`, and the one at the end of the handler -/
def Response.toJson : Response → Json
  | .error _ msg => .object (SortedMap.ofList [("ok", .bool false), ("error", .string msg)]).items
  | .body b => .object (SortedMap.ofList [("ok", .bool b.ok), ("node", .string b.node),
      ("updated", .array (b.updated.map fun name => .string (lit name))),
      ("rejected", .array (b.rejected.map fun r =>
        .object (SortedMap.ofList [("name", .string (lit r.1)), ("reason", .string r.2)]).items))]).items

def Response.answer (r : Response) : HttpAnswer := setContent r.status r.toJson

def answerPostParameters {σ : Type} (parse : Bytes → Except Bytes Json) (dump : Json → Bytes)
    (paramClients : Bytes → Option (ParametersClient σ)) (body : Bytes) (s : σ) : HttpAnswer × σ :=
  (handlePostParameters parse dump paramClients body s).map Response.answer id

/-- the texts in an answer that need not be UTF-8 -/
def Response.texts : Response → List Bytes
  | .error _ msg => [msg]
  | .body b => b.node :: b.rejected.map Prod.snd

theorem utf8_array {elems : List Json} : Utf8 (Json.array elems).strings ↔ ∀ value ∈ elems, Utf8 value.strings := by
  rw [Json.strings]
  induction elems with
  | nil => exact iff_of_true (fun s hs => absurd hs List.not_mem_nil) fun v hv => absurd hv List.not_mem_nil
  | cons value elems ih => rw [Json.stringsElems, utf8_append, ih, List.forall_mem_cons]

theorem utf8_members {members : List (String × Json)} :
    Utf8 (Json.object members).strings ↔ ∀ m ∈ members, Utf8 m.2.strings := by
  rw [Json.strings]
  induction members with
  | nil => exact iff_of_true (fun s hs => absurd hs List.not_mem_nil) fun v hv => absurd hv List.not_mem_nil
  | cons m members ih => rw [Json.stringsMembers, utf8_append, ih, List.forall_mem_cons]

/-- an object that has been put together from these members -/
theorem utf8_ofList {members : List (String × Json)} (h : (members.map Prod.fst).Nodup) :
    Utf8 (Json.object (SortedMap.ofList members).items).strings ↔ ∀ m ∈ members, Utf8 m.2.strings := by
  rw [utf8_members]
  exact forall_congr' fun m => imp_congr_left (SortedMap.ofList_perm h).mem_iff

theorem utf8_string {s : Bytes} : Utf8 (Json.string s).strings ↔ (decodeText s).isSome = true := by
  rw [Json.strings]
  exact List.forall_mem_singleton (p := fun t => (decodeText t).isSome = true)

theorem utf8_bool (b : Bool) : Utf8 (Json.bool b).strings := fun s hs => absurd hs (by simp [Json.strings])

theorem utf8_lit (s : String) : Utf8 (Json.string (lit s)).strings := by
  rw [utf8_string, decodeText_lit]
  rfl

/-- **Answers that are not sent.** A message, the name of the node or a reason is not UTF-8. -/
theorem answer_raised (r : Response) : r.answer = .raised ↔ ¬ Utf8 r.texts := by
  rw [Response.answer, setContent_raised]
  apply not_congr
  cases r with
  | error status msg =>
    have hkeys : ["ok", "error"].Nodup := by decide
    rw [Response.toJson, utf8_ofList, List.forall_mem_cons, List.forall_mem_singleton, utf8_string]
    · apply (and_iff_right (utf8_bool false)).trans
      exact (List.forall_mem_singleton (p := fun t => (decodeText t).isSome = true)).symm
    · exact hkeys
  | body b =>
    have hkeys : ["ok", "node", "updated", "rejected"].Nodup := by decide
    have hreason : ["name", "reason"].Nodup := by decide
    have hupdated : Utf8 (Json.array (b.updated.map fun name => .string (lit name))).strings := by
      rw [utf8_array, List.forall_mem_map]
      exact fun name _ => utf8_lit name
    have hrejected : Utf8 (Json.array (b.rejected.map fun r =>
        .object (SortedMap.ofList [("name", .string (lit r.1)), ("reason", .string r.2)]).items)).strings ↔
        ∀ r ∈ b.rejected, (decodeText r.2).isSome = true := by
      rw [utf8_array, List.forall_mem_map]
      refine forall₂_congr fun r _ => ?_
      rw [utf8_ofList, List.forall_mem_cons, List.forall_mem_singleton]
      · exact (and_iff_right (utf8_lit r.1)).trans utf8_string
      · exact hreason
    have htexts : Utf8 (Response.body b).texts ↔
        (decodeText b.node).isSome = true ∧ ∀ r ∈ b.rejected, (decodeText r.2).isSome = true := by
      rw [Utf8, Response.texts, List.forall_mem_cons, List.forall_mem_map]
    rw [Response.toJson, utf8_ofList, List.forall_mem_cons, List.forall_mem_cons, List.forall_mem_cons,
      List.forall_mem_singleton, utf8_string, hrejected, htexts, and_iff_right (utf8_bool b.ok),
      and_iff_right hupdated]
    exact hkeys

end VD
