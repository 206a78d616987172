import VehicleDetection.Http.Client

/-!
# A response in pieces

* `Delivers`        the ways in which the socket hands over a response and its end;
* `recvLoop_delivers`  the loop ends with all of it, or with a beginning of more than 64 KiB;
* `parseStatusLine_congr`  only the text before the first CRLF is parsed;
* `httpPostJson_delivers`  so the result is the one for the whole response.
-/

set_option linter.unusedVariables false

namespace VD
open BStr

/-- pieces of 1 to 1024 bytes, with interruptions between them, then the orderly close -/
inductive Delivers : Bytes → List RecvOutcome → Prop
  | close (os : List RecvOutcome) : Delivers [] (.returned [] :: os)
  | piece {piece response : Bytes} {os : List RecvOutcome} (hne : piece ≠ []) (hlen : piece.length ≤ 1024)
      (h : Delivers response os) : Delivers (piece ++ response) (.returned piece :: os)
  | interrupted {response : Bytes} {os : List RecvOutcome} (h : Delivers response os) :
      Delivers response (.interrupted :: os)

/-- the first CRLF ends within the first 64 KiB, or there are no more -/
def Headed (response : Bytes) : Prop :=
  response.length ≤ 65536 ∨
    ∃ line rest, response = line ++ 13 :: 10 :: rest ∧ NoCrlf line ∧ line.length + 2 ≤ 65536

theorem recvLoop_delivers {response : Bytes} {os : List RecvOutcome} (h : Delivers response os) :
    ∀ before, ∃ received, recvLoop before os = .complete received ∧ received <+: before ++ response ∧
      (received = before ++ response ∨ 65536 < received.length) := by
  induction h with
  | close os =>
    intro before
    rw [List.append_nil]
    exact ⟨before, rfl, List.prefix_rfl, .inl rfl⟩
  | @piece piece response os hne hlen h ih =>
    intro before
    obtain ⟨b, bs, rfl⟩ := List.exists_cons_of_ne_nil hne
    rw [recvLoop_cons, ← List.append_assoc]
    by_cases hcut : (before ++ b :: bs).length > kMaxResponse
    · rw [if_pos hcut]
      exact ⟨_, rfl, List.prefix_append _ _, .inr hcut⟩
    · rw [if_neg hcut]
      exact ih (before ++ b :: bs)
  | interrupted h ih => exact ih

/-! ## the text before the first CRLF -/

theorem parseStatusLine_congr {line : Bytes} (h : NoCrlf line) (rest rest' : Bytes) :
    parseStatusLine (line ++ 13 :: 10 :: rest) = parseStatusLine (line ++ 13 :: 10 :: rest') := by
  unfold parseStatusLine
  rw [findSub_crlf_append rest h, findSub_crlf_append rest' h]
  simp only [List.take_left]

/-- a beginning that reaches behind the first CRLF -/
theorem prefix_line {line rest received : Bytes} (hp : received <+: line ++ 13 :: 10 :: rest)
    (hlen : line.length + 2 ≤ received.length) : ∃ rest', received = line ++ 13 :: 10 :: rest' := by
  have hline : line ++ [13, 10] <+: line ++ 13 :: 10 :: rest :=
    ⟨rest, by rw [List.append_assoc]; rfl⟩
  obtain ⟨rest', hr⟩ := List.prefix_of_prefix_length_le hline hp (by rw [List.length_append]; exact hlen)
  exact ⟨rest', by rw [← hr, List.append_assoc]; rfl⟩

theorem judgeResponse_begun {response received : Bytes} (h : Headed response)
    (hp : received <+: response) (hcut : received = response ∨ 65536 < received.length) :
    judgeResponse received = judgeResponse response := by
  rcases hcut with rfl | hcut
  · rfl
  rcases h with hlen | ⟨line, rest, rfl, hline, hlen⟩
  · exact absurd (hp.length_le.trans hlen) (by omega)
  · obtain ⟨rest', rfl⟩ := prefix_line hp (by omega)
    unfold judgeResponse
    rw [parseStatusLine_congr hline rest' rest]

/-- However a response is delivered whose first CRLF ends within 64 KiB, or that is no longer than that: the
call returns what `parse_status_line` of the whole response determines. -/
theorem httpPostJson_delivers (url : HttpUrl) (body : Bytes) (io : PostIo) (response : Bytes)
    (hsent : openAndSend url body io = some (.ok ())) (hd : Delivers response io.recvs)
    (h : Headed response) : httpPostJson url body io = some (judgeResponse response) := by
  obtain ⟨received, hr, hp, hcut⟩ := recvLoop_delivers hd []
  rw [List.nil_append] at hp hcut
  rw [httpPostJson_sent hsent, hr]
  exact congrArg some (judgeResponse_begun h hp hcut)

def local80 : HttpUrl := ⟨lit "localhost", lit "80", lit "/"⟩

/-- the CRLF is split over two pieces -/
theorem httpPostJson_delivers_split :
    httpPostJson local80 [] ⟨.ok [.connected], [.returned (buildRequest local80 []).length],
      [.returned (lit "HTTP/1.1 204 ok" ++ [13]), .interrupted, .returned [10, 13, 10], .returned []]⟩ =
    some (judgeResponse (lit "HTTP/1.1 204 ok" ++ [13] ++ ([10, 13, 10] ++ []))) :=
  httpPostJson_delivers local80 [] _ _ (by decide +kernel)
    (.piece (by decide) (by decide) (.interrupted (.piece (by decide) (by decide) (.close []))))
    (.inl (by decide))

end VD
