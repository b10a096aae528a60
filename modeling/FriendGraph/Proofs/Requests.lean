import FriendGraph.Proofs.Atomicity
import FriendGraph.Proofs.Fault
import FriendGraph.Session

/-! # What a session learns from a reply

A request has one reply, or none if it is an import, and only its first target matters. A reply
finds fault with the request exactly when the request is faulty (`Request.Faulty`), which for a
handle depends on whom it is registered to; it is a success exactly when the operation is. Of any
other failure a session learns nothing but the kind of its own request, so two failures of one
kind cannot be told apart, whatever the tables and the targets are.
-/

namespace FriendGraph

/-- The bytes cannot stand for a user other than the caller. -/
def Caller.Rejects (caller : Caller) (bytes : List UInt8) : Prop :=
  bytes.length ≠ 16 ∨ bytes = caller.id.bytes

/-- A request to add, remove or block nobody, or somebody whom the caller cannot name. -/
def Request.Faulty (caller : Caller) (users : Option Directory) : Request → Prop
  | .addFriends [] => True
  | .addFriends (.id bytes :: _) => caller.Rejects bytes
  | .addFriends (.handle handle :: _) => caller.RejectsHandle users handle
  | .removeFriends [] => True
  | .removeFriends (bytes :: _) => caller.Rejects bytes
  | .blockFriends [] => True
  | .blockFriends (bytes :: _) => caller.Rejects bytes
  | .listFriends => False
  | .importFriends _ _ => False

/-- The request without the targets after the first one. -/
def Request.cut : Request → Request
  | .addFriends targets => .addFriends (targets.take 1)
  | .removeFriends ids => .removeFriends (ids.take 1)
  | .blockFriends ids => .blockFriends (ids.take 1)
  | .listFriends => .listFriends
  | .importFriends externalId accessToken => .importFriends externalId accessToken

/-- The request asks to change relationships with targets. -/
def Request.Targets : Request → Prop
  | .addFriends _ => True
  | .removeFriends _ => True
  | .blockFriends _ => True
  | .listFriends => False
  | .importFriends _ _ => False

namespace Service

variable {State : Type} [Sender State]

/-- Friends are answered to a caller who lists them, which changes nothing, and to nobody else. -/
theorem listed_or {call : Call} {service : Service State} {outcome : Outcome}
    (done : (service.serve call).1 = .ok outcome) :
    call.operation = .list ∧ (∃ friends, outcome = .friends friends) ∧
        (service.serve call).2 = service ∨
      call.operation ≠ .list ∧ ¬∃ friends, outcome = .friends friends := by
  have comes := served call service
  rw [done] at comes
  generalize (service.serve call).2 = later at comes ⊢
  cases comes with
  | listed friends asked => exact .inl ⟨asked, ⟨friends, rfl⟩, rfl⟩
  | added target isNew after asked different run =>
    refine .inr ⟨fun lists => ?_, fun ⟨_, same⟩ => nomatch same⟩
    rw [Call.Adds, lists] at asked
    exact asked
  | removed target after asked different run =>
    refine .inr ⟨fun lists => ?_, fun ⟨_, same⟩ => nomatch same⟩
    cases asked.symm.trans lists
  | barred target after asked different run =>
    refine .inr ⟨fun lists => ?_, fun ⟨_, same⟩ => nomatch same⟩
    cases asked.symm.trans lists
  | imported externalId contacts connected after asked run =>
    refine .inr ⟨fun lists => ?_, fun ⟨_, same⟩ => nomatch same⟩
    cases asked.symm.trans lists

end Service

/-! ## Requests -/

namespace Session

variable {caller : Caller} {bytes : List UInt8} {failed : FailedOperation}
  {outcome : Except RelationshipError Outcome}

/-- An identifier is decoded exactly from its own bytes. -/
theorem decodeId_eq_ok_iff {id : UserId} : decodeId bytes = .ok id ↔ id.bytes = bytes := by
  unfold decodeId
  split
  · next empty =>
    refine iff_of_false (fun same => nomatch same) ?_
    rintro rfl
    have length := id.length_bytes
    rw [List.isEmpty_iff.mp empty] at length
    cases length
  · rw [← UserId.ofStored?_eq_some_iff]
    cases UserId.ofStored? bytes <;> simp

/-- Bytes that the caller rejects stand for nobody, or for the caller. -/
theorem rejects_iff : caller.Rejects bytes ↔ ∀ id, decodeId bytes = .ok id → id = caller.id := by
  simp only [decodeId_eq_ok_iff, Caller.Rejects]
  constructor
  · rintro (short | own) id rfl
    · exact absurd id.length_bytes short
    · exact UserId.ext own
  · intro only
    by_cases length : bytes.length = 16
    · exact .inr (congrArg UserId.bytes (only ⟨bytes, length⟩ rfl))
    · exact .inl length

/-- What is decoded into an operation is faulty when the identifier is rejected. -/
theorem map_decodeId_iff {users : Option Directory} {build : UserId → Operation}
    (names : ∀ id, (build id).Faulty caller users ↔ id = caller.id) :
    (∀ asked, (decodeId bytes).map build = .ok asked → asked.Faulty caller users) ↔
      caller.Rejects bytes := by
  rw [rejects_iff]
  cases decodeId bytes with
  | error cause => simp [Except.map]
  | ok id => simp [Except.map, names]

/-- A request is faulty when it comes to no operation, or to one that is faulty. -/
theorem faulty_iff (caller : Caller) (source : ContactSource) (users : Option Directory)
    (request : Request) :
    request.Faulty caller users ↔
      ∀ asked, operation source request = .ok asked → asked.Faulty caller users := by
  cases request with
  | addFriends targets =>
    rcases targets with _ | ⟨bytes | handle, rest⟩
    · exact iff_of_true trivial fun asked same => nomatch same
    · exact (map_decodeId_iff fun _ => Iff.rfl).symm
    · simp [operation, addOperation, Request.Faulty, Operation.Faulty]
  | removeFriends ids =>
    rcases ids with _ | ⟨bytes, rest⟩
    · exact iff_of_true trivial fun asked same => nomatch same
    · exact (map_decodeId_iff fun _ => Iff.rfl).symm
  | blockFriends ids =>
    rcases ids with _ | ⟨bytes, rest⟩
    · exact iff_of_true trivial fun asked same => nomatch same
    · exact (map_decodeId_iff fun _ => Iff.rfl).symm
  | listFriends => simp [operation, Request.Faulty, Operation.Faulty]
  | importFriends externalId accessToken => simp [operation, Request.Faulty, Operation.Faulty]

/-- Only the request for a list comes to the operation that lists. -/
theorem operation_eq_list_iff (source : ContactSource) {request : Request} :
    operation source request = .ok .list ↔ request = .listFriends := by
  have builds : ∀ (bytes : List UInt8) (build : UserId → Operation), (∀ id, build id ≠ .list) →
      (decodeId bytes).map build ≠ .ok .list := by
    intro bytes build other
    cases decodeId bytes with
    | error cause => exact fun same => nomatch same
    | ok id => exact fun same => other id (Except.ok.inj same)
  cases request with
  | addFriends targets =>
    rcases targets with _ | ⟨bytes | handle, rest⟩
    · simp [operation, addOperation]
    · exact iff_of_false (builds bytes _ fun _ => by simp) (by simp)
    · simp [operation, addOperation]
  | removeFriends ids =>
    rcases ids with _ | ⟨bytes, rest⟩
    · exact iff_of_false (fun same => nomatch same) (by simp)
    · exact iff_of_false (builds bytes _ fun _ => by simp) (by simp)
  | blockFriends ids =>
    rcases ids with _ | ⟨bytes, rest⟩
    · exact iff_of_false (fun same => nomatch same) (by simp)
    · exact iff_of_false (builds bytes _ fun _ => by simp) (by simp)
  | listFriends => simp [operation]
  | importFriends externalId accessToken => simp [operation]

/-- The targets after the first one make no difference to what is asked for. -/
theorem operation_cut (source : ContactSource) (request : Request) :
    operation source request.cut = operation source request := by
  cases request with
  | addFriends targets => rcases targets with _ | ⟨_ | _, _⟩ <;> rfl
  | removeFriends ids => cases ids <;> rfl
  | blockFriends ids => cases ids <;> rfl
  | listFriends => rfl
  | importFriends externalId accessToken => rfl

/-- What a request is cut to is of the same kind. -/
theorem failedOperation?_cut (request : Request) :
    failedOperation? request.cut = failedOperation? request := by
  cases request <;> rfl

/-- A request is answered as what it is cut to. -/
theorem answer_cut {State : Type} [Sender State] (terms : Terms) (occasion : Occasion)
    (source : ContactSource) (caller : Caller) (request : Request) (service : Service State) :
    answer terms occasion source caller request.cut service =
      answer terms occasion source caller request service := by
  simp only [answer, operation_cut, failedOperation?_cut]

/-! ## Replies -/

/-- Bad input is reported exactly when the operation is refused as invalid. -/
theorem respond_eq_badInput_iff {cause : BadInput} :
    respond failed outcome = .badInput cause ↔
      ∃ refusal, outcome = .error (.invalid refusal) ∧ cause = .refused refusal := by
  unfold respond
  split <;> simp_all [eq_comm]

/-- A failure is reported exactly when the operation fails for another reason. -/
theorem respond_eq_failure_iff {kind : FailedOperation} :
    respond failed outcome = .failure kind ↔
      kind = failed ∧
        ∃ error, outcome = .error error ∧ ∀ refusal, error ≠ .invalid refusal := by
  unfold respond
  split <;> simp_all [eq_comm]

/-- Friends are reported exactly when the operation lists them. -/
theorem respond_eq_friends_iff {friends : List Friend} :
    respond failed outcome = .friends friends ↔ outcome = .ok (.friends friends) := by
  unfold respond
  split <;> simp_all

/-- Success is reported exactly when the operation succeeds with something else than a list. -/
theorem respond_eq_ok_iff :
    respond failed outcome = .ok ↔
      ∃ answered, outcome = .ok answered ∧ ¬∃ friends, answered = .friends friends := by
  unfold respond
  split <;> simp_all

end Session

/-! ## Submissions -/

/-- A request with the circumstances in which it is made. -/
structure Submission where
  terms : Terms
  occasion : Occasion
  source : ContactSource
  caller : Caller
  request : Request

namespace Submission

variable {State : Type} [Sender State] {submission : Submission} {service : Service State}

/-- What the request asks for. -/
def operation (submission : Submission) : Except BadInput Operation :=
  Session.operation submission.source submission.request

/-- The replies to a submission, and the service afterwards. -/
def answer (submission : Submission) (service : Service State) : List Response × Service State :=
  Session.answer submission.terms submission.occasion submission.source submission.caller
    submission.request service

/-- The call that performs an operation. -/
def call (submission : Submission) (operation : Operation) : Call :=
  ⟨submission.terms, submission.occasion, submission.caller, operation⟩

/-- The operation that is asked for succeeds. -/
def Succeeds (submission : Submission) (service : Service State) (outcome : Outcome) : Prop :=
  ∃ operation, submission.operation = .ok operation ∧
    (service.serve (submission.call operation)).1 = .ok outcome

/-- The operation that is asked for fails for another reason than a fault of the request. -/
def Fails (submission : Submission) (service : Service State) : Prop :=
  ∃ operation error, submission.operation = .ok operation ∧
    (service.serve (submission.call operation)).1 = .error error ∧
    ∀ refusal, error ≠ .invalid refusal

/-- How a submission is answered. -/
structure Answered (submission : Submission) (service : Service State)
    (responses : List Response) (after : Service State) : Prop where
  single : submission.request.Targets ∨ submission.request = .listFriends →
    ∃ response, responses = [response]
  silent : ∀ externalId accessToken, submission.request = .importFriends externalId accessToken →
    responses = []
  first : { submission with request := submission.request.cut }.answer service =
    (responses, after)
  badInput : (∃ cause, .badInput cause ∈ responses) ↔
    submission.request.Faulty submission.caller service.database.users
  ok : .ok ∈ responses ↔
    submission.request.Targets ∧ ∃ outcome, submission.Succeeds service outcome
  friends : ∀ friends, .friends friends ∈ responses ↔
    submission.request = .listFriends ∧ submission.Succeeds service (.friends friends)
  failure : ∀ failed, .failure failed ∈ responses ↔
    Session.failedOperation? submission.request = some failed ∧ submission.Fails service
  otherwise : submission.request.Targets → ∀ response ∈ responses,
    (∀ cause, response ≠ .badInput cause) → response ≠ .ok →
      ∃ failed, Session.failedOperation? submission.request = some failed ∧
        response.error? = some (.runtimeException, failed.message)
  unchanged : ∀ response ∈ responses, response ≠ .ok → after = service
  /-- What is asked for is done, and nothing else. -/
  performed : ∀ operation, submission.operation = .ok operation →
    after = (service.serve (submission.call operation)).2
  /-- Nothing is done where nothing can be asked for. -/
  refused : ∀ cause, submission.operation = .error cause → after = service

/-- A request that is refused at once is answered by the reason, and nothing is done. -/
theorem answer_of_refused {cause : BadInput} (refused : submission.operation = .error cause) :
    submission.answer service = ([.badInput cause], service) := by
  unfold answer Session.answer
  rw [show Session.operation submission.source submission.request = .error cause from refused]

/-- A request that is decoded is answered by its operation, and the operation is done. -/
theorem answer_of_decoded {operation : Operation} (decoded : submission.operation = .ok operation) :
    submission.answer service =
      ((Session.failedOperation? submission.request).toList.map fun failed =>
          Session.respond failed (service.serve (submission.call operation)).1,
        (service.serve (submission.call operation)).2) := by
  unfold answer Session.answer
  rw [show Session.operation submission.source submission.request = .ok operation from decoded]
  dsimp only
  cases Session.failedOperation? submission.request <;> rfl

/-- A response is the reason why a request is refused at once, or made of what its operation comes
to. -/
theorem mem_answer_iff {response : Response} :
    response ∈ (submission.answer service).1 ↔
      (∃ cause, submission.operation = .error cause ∧ .badInput cause = response) ∨
        ∃ operation failed, submission.operation = .ok operation ∧
          Session.failedOperation? submission.request = some failed ∧
          Session.respond failed (service.serve (submission.call operation)).1 = response := by
  cases decoded : submission.operation with
  | error cause =>
    rw [answer_of_refused decoded]
    simp [eq_comm]
  | ok operation =>
    rw [answer_of_decoded decoded]
    simp

/-- A request is silent exactly when it is an import. -/
theorem failedOperation?_eq_none_iff {request : Request} :
    Session.failedOperation? request = none ↔
      ∃ externalId accessToken, request = .importFriends externalId accessToken := by
  cases request <;> simp [Session.failedOperation?]

/-- Bad input is among the responses exactly when the request is faulty. -/
theorem badInput_mem_iff :
    (∃ cause, .badInput cause ∈ (submission.answer service).1) ↔
      submission.request.Faulty submission.caller service.database.users := by
  have faulty := Session.faulty_iff submission.caller submission.source service.database.users
    submission.request
  simp only [mem_answer_iff, Session.respond_eq_badInput_iff]
  constructor
  · rintro ⟨cause, ⟨_, refused, _⟩ | ⟨operation, failed, decoded, _, refusal, invalid, _⟩⟩
    · exact faulty.mpr fun asked decoded => nomatch refused.symm.trans decoded
    · refine faulty.mpr fun asked decodes => ?_
      cases decoded.symm.trans decodes
      exact (service.fst_perform_eq_invalid_iff ..).mp ⟨refusal, invalid⟩
  · intro isFaulty
    cases decoded : submission.operation with
    | error cause => exact ⟨cause, .inl ⟨cause, rfl, rfl⟩⟩
    | ok operation =>
      obtain ⟨refusal, invalid⟩ :=
        (service.fst_perform_eq_invalid_iff submission.terms submission.occasion submission.caller
          operation).mpr (faulty.mp isFaulty operation decoded)
      cases told : Session.failedOperation? submission.request with
      | some failed =>
        exact ⟨.refused refusal, .inr ⟨operation, failed, rfl, rfl, refusal, invalid, rfl⟩⟩
      | none =>
        obtain ⟨_, _, isImport⟩ := failedOperation?_eq_none_iff.mp told
        rw [isImport] at isFaulty
        exact isFaulty.elim

/-- Success is among the responses exactly when a request with targets succeeds. -/
theorem ok_mem_iff :
    .ok ∈ (submission.answer service).1 ↔
      submission.request.Targets ∧ ∃ outcome, submission.Succeeds service outcome := by
  simp only [mem_answer_iff, Session.respond_eq_ok_iff]
  constructor
  · rintro (⟨_, _, same⟩ | ⟨operation, failed, decoded, told, outcome, done, other⟩)
    · cases same
    · refine ⟨?_, outcome, operation, decoded, done⟩
      have lists : operation ≠ .list := by
        rcases Service.listed_or done with
          ⟨_, friends, _⟩ | ⟨lists, _⟩
        · exact absurd friends other
        · exact lists
      cases asked : submission.request with
      | listFriends =>
        have isList := (Session.operation_eq_list_iff submission.source).mpr asked
        exact lists (Except.ok.inj (decoded.symm.trans isList))
      | importFriends externalId accessToken =>
        rw [asked] at told
        cases told
      | _ => trivial
  · rintro ⟨targets, outcome, operation, decoded, done⟩
    cases told : Session.failedOperation? submission.request with
    | none =>
      obtain ⟨_, _, isImport⟩ := failedOperation?_eq_none_iff.mp told
      rw [isImport] at targets
      exact targets.elim
    | some failed =>
      refine .inr ⟨operation, failed, decoded, rfl, outcome, done, ?_⟩
      rcases Service.listed_or done with ⟨lists, _⟩ | ⟨_, other⟩
      · have isList : submission.request = .listFriends :=
          (Session.operation_eq_list_iff submission.source).mp
            (decoded.trans (congrArg Except.ok lists))
        rw [isList] at targets
        exact targets.elim
      · exact other

/-- Friends are among the responses exactly when a request for the list succeeds with them. -/
theorem friends_mem_iff {friends : List Friend} :
    .friends friends ∈ (submission.answer service).1 ↔
      submission.request = .listFriends ∧ submission.Succeeds service (.friends friends) := by
  simp only [mem_answer_iff, Session.respond_eq_friends_iff]
  constructor
  · rintro (⟨_, _, same⟩ | ⟨operation, failed, decoded, _, done⟩)
    · cases same
    · rcases Service.listed_or done with ⟨lists, _⟩ | ⟨_, other⟩
      · refine ⟨(Session.operation_eq_list_iff submission.source).mp ?_, operation, decoded, done⟩
        exact decoded.trans (congrArg Except.ok lists)
      · exact absurd ⟨friends, rfl⟩ other
  · rintro ⟨asked, operation, decoded, done⟩
    refine .inr ⟨operation, .list, decoded, ?_, done⟩
    rw [asked]
    rfl

/-- A failure is among the responses exactly when the request fails and is of that kind. -/
theorem failure_mem_iff {failed : FailedOperation} :
    .failure failed ∈ (submission.answer service).1 ↔
      Session.failedOperation? submission.request = some failed ∧ submission.Fails service := by
  simp only [mem_answer_iff, Session.respond_eq_failure_iff]
  constructor
  · rintro (⟨_, _, same⟩ | ⟨operation, _, decoded, told, rfl, error, failure, other⟩)
    · cases same
    · exact ⟨told, operation, error, decoded, failure, other⟩
  · rintro ⟨told, operation, error, decoded, failure, other⟩
    exact .inr ⟨operation, failed, decoded, told, rfl, error, failure, other⟩

/-- Where the reply is no success, the service is as it was. -/
theorem answer_unchanged {response : Response} (replied : response ∈ (submission.answer service).1)
    (other : response ≠ .ok) : (submission.answer service).2 = service := by
  rcases mem_answer_iff.mp replied with
    ⟨cause, refused, _⟩ | ⟨operation, failed, decoded, _, rfl⟩
  · rw [answer_of_refused refused]
  · rw [answer_of_decoded decoded]
    cases done : (service.serve (submission.call operation)).1 with
    | error error => exact Service.serve_of_error done
    | ok outcome =>
      rcases Service.listed_or done with
        ⟨_, _, same⟩ | ⟨_, unlisted⟩
      · exact same
      · exact absurd (Session.respond_eq_ok_iff.mpr ⟨outcome, done, unlisted⟩) other

/-- Every request is answered as it should be. -/
theorem answered (submission : Submission) (service : Service State) :
    submission.Answered service (submission.answer service).1 (submission.answer service).2 := by
  constructor
  case single =>
    intro told
    have some : ∃ failed, Session.failedOperation? submission.request = some failed := by
      rw [← Option.isSome_iff_exists, Option.isSome_iff_ne_none]
      intro silent
      obtain ⟨_, _, isImport⟩ := failedOperation?_eq_none_iff.mp silent
      rw [isImport] at told
      exact told.elim id fun same => nomatch same
    obtain ⟨failed, told⟩ := some
    cases decoded : submission.operation with
    | error cause => exact ⟨_, congrArg Prod.fst (answer_of_refused decoded)⟩
    | ok operation =>
      rw [answer_of_decoded decoded, told]
      exact ⟨_, rfl⟩
  case silent =>
    intro externalId accessToken isImport
    have decoded : submission.operation =
        .ok (.importContacts externalId (submission.source accessToken)) := by
      rw [operation, isImport]
      rfl
    rw [answer_of_decoded decoded, failedOperation?_eq_none_iff.mpr ⟨_, _, isImport⟩]
    rfl
  case first => exact Session.answer_cut ..
  case badInput => exact badInput_mem_iff
  case ok => exact ok_mem_iff
  case friends => exact fun _ => friends_mem_iff
  case failure => exact fun _ => failure_mem_iff
  case otherwise =>
    intro targets response replied valid other
    cases response with
    | ok => exact absurd rfl other
    | badInput cause => exact absurd rfl (valid cause)
    | friends friends =>
      rw [(friends_mem_iff.mp replied).1] at targets
      exact targets.elim
    | failure failed => exact ⟨failed, (failure_mem_iff.mp replied).1, rfl⟩
  case unchanged => exact fun _ => answer_unchanged
  case performed => exact fun _ decoded => congrArg Prod.snd (answer_of_decoded decoded)
  case refused => exact fun _ refused => congrArg Prod.snd (answer_of_refused refused)

/-- What fails for another reason than a fault of the request is answered by its kind. -/
theorem answer_of_fails {failed : FailedOperation} (fails : submission.Fails service)
    (told : Session.failedOperation? submission.request = some failed) :
    (submission.answer service).1 = [.failure failed] := by
  obtain ⟨operation, error, decoded, failure, other⟩ := fails
  have responds : Session.respond failed (service.serve (submission.call operation)).1 =
      .failure failed := Session.respond_eq_failure_iff.mpr ⟨rfl, error, failure, other⟩
  rw [answer_of_decoded decoded, told, Option.toList_some, List.map_singleton, responds]

/-- A silent request gets no response. -/
theorem answer_of_silent (silent : Session.failedOperation? submission.request = none) :
    (submission.answer service).1 = [] := by
  obtain ⟨externalId, accessToken, isImport⟩ := failedOperation?_eq_none_iff.mp silent
  exact (answered submission service).silent externalId accessToken isImport

end Submission

namespace Pair

/-- A session of the first user, which goes by another handle than the one that is registered. -/
def submission (targets : List FriendTarget) : Submission where
  terms := ⟨budget, 7⟩
  occasion := ⟨5, fun _ => ""⟩
  source := fun _ => .ok []
  caller := ⟨ada, "visitor"⟩
  request := .addFriends targets

end Pair

namespace Submission

end Submission

end FriendGraph
