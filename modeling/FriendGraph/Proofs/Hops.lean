import Mathlib.Data.List.Chain
import Mathlib.Logic.Basic
import FriendGraph.Http.Network

/-! # Where an exchange is sent on to

An exchange is a journey of hops (`Http.Journey`). The first hop is to the URL that is asked for,
every further one is where the answer to the one before sends the client (`Hop.Leads`), and the
journey goes on until an answer stands or the client has been sent on too often (`Journey.IsMade`).
There is such a journey from every URL (`Journey.exists_isMade`), and it accounts for all that an
exchange does: the other side sees the requests of its hops, and what comes of the exchange is
decided by the last of them (`Network.run_of_isMade`).
-/

namespace FriendGraph.Http

/-- The URL can be asked for over the web. -/
def Askable (url : Url) : Prop :=
  (url.scheme = "http" ∨ url.scheme = "https") ∧ isSendable url = true

/-- Why a URL cannot be asked for, of which that is known. -/
def obstacle (url : Url) : TransferFault :=
  if isWeb url then .unsendableUrl else .unsupportedScheme

/-- The schemes of the web are those of HTTP, plain and secured. -/
theorem isWeb_iff {url : Url} : isWeb url = true ↔ url.scheme = "http" ∨ url.scheme = "https" := by
  simp [isWeb]

/-- What arrives has the status of the answer. -/
theorem exists_answer_of_outcome {reply : Reply} {response : Response}
    (arrived : reply.outcome = .ok response) :
    ∃ location body, reply = .answer response.status location body := by
  cases reply with
  | refusal | close | silence => cases arrived
  | answer status location body =>
    rw [Reply.outcome, receive] at arrived
    split at arrived
    · cases arrived
    · split at arrived
      · cases arrived
      · cases arrived
        exact ⟨location, body, rfl⟩

/-- A hop: an errand, and the number under which it is run. -/
structure Hop where
  errand : Errand
  number : Nat

namespace Hop

/-- What the hop gets. -/
def reply (network : Network) (hop : Hop) : Reply := network.reply hop.errand.url hop.number

/-- What the other side sees of the hop. -/
def seen? (network : Network) (hop : Hop) : Option Request :=
  (hop.reply network).seen? hop.errand.request

/-- The hop that the answer to this one sends the client on to. -/
def next? (network : Network) (hop : Hop) : Option Hop :=
  match (hop.reply network).outcome with
  | .ok response => (network.onward? hop.errand response).map fun errand => ⟨errand, hop.number + 1⟩
  | .error _ => none

/-- One hop leads to another: its answer sends the client on to a URL of the web. -/
def Leads (network : Network) (hop later : Hop) : Prop :=
  hop.next? network = some later ∧ isWeb later.errand.url = true

/-- A hop is followed by the one with the next number. -/
theorem number_of_next? {network : Network} {hop later : Hop}
    (sent : hop.next? network = some later) : later.number = hop.number + 1 := by
  unfold next? at sent
  split at sent
  · obtain ⟨errand, _, rfl⟩ := Option.map_eq_some_iff.mp sent
    rfl
  · cases sent

/-- A hop is sent on by an answer that says so, and with what becomes of its errand. -/
theorem exists_answer_of_next? {network : Network} {hop later : Hop}
    (sent : hop.next? network = some later) :
    ∃ status location body url, hop.reply network = .answer status location body ∧
      status.isRedirect = true ∧ later.errand = hop.errand.redirected status url := by
  unfold next? at sent
  split at sent
  · next response arrived =>
    obtain ⟨errand, onward, rfl⟩ := Option.map_eq_some_iff.mp sent
    unfold Network.onward? at onward
    split at onward
    · next redirects =>
      obtain ⟨url, _, rfl⟩ := Option.map_eq_some_iff.mp onward
      obtain ⟨location, body, replied⟩ := exists_answer_of_outcome arrived
      exact ⟨_, location, body, url, replied, redirects, rfl⟩
    · cases onward
  · cases sent

end Hop

/-- The hops of an exchange: those whose answers sent the client on, and the last one. -/
structure Journey where
  redirected : List Hop
  last : Hop

namespace Journey

/-- All hops in their order. -/
def hops (journey : Journey) : List Hop := journey.redirected ++ [journey.last]

/-- What the other side sees of the hops. -/
def trace (network : Network) (journey : Journey) : Trace := journey.hops.map (·.seen? network)

/-- What comes of a journey that may be sent on so often: the answer to its last hop, unless that
sends the client on yet again. -/
def outcome (network : Network) (most : Nat) (journey : Journey) : Except TransferFault Response :=
  match journey.last.next? network with
  | none => (journey.last.reply network).outcome
  | some _ =>
    .error (if journey.redirected.length < most then .unsupportedScheme else .tooManyRedirects)

/-- A journey as it is made from a hop on by a client that may be sent on so often. -/
structure IsMade (network : Network) (most : Nat) (start : Hop) (journey : Journey) : Prop where
  starts : journey.hops.head? = some start
  /-- Every hop after the first one is where the answer to the one before sends the client. -/
  linked : journey.hops.IsChain (Hop.Leads network)
  few : journey.redirected.length ≤ most
  /-- Where an answer sends the client on, the journey ends only when it was sent on too often. -/
  persists : ∀ later, journey.last.Leads network later → journey.redirected.length = most

variable {network : Network} {most : Nat} {start hop last : Hop} {rest : List Hop}
  {journey : Journey}

/-- A journey of one hop ends there, unless its answer sends the client on. -/
theorem isMade_nil_iff :
    IsMade network most start ⟨[], last⟩ ↔
      start = last ∧ ∀ later, last.Leads network later → most = 0 := by
  constructor
  · intro made
    exact ⟨(Option.some.inj made.starts).symm, fun later leads => (made.persists later leads).symm⟩
  · rintro ⟨rfl, final⟩
    exact
      { starts := rfl
        linked := List.isChain_singleton start
        few := Nat.zero_le most
        persists := fun later leads => (final later leads).symm }

/-- A longer journey starts with a hop that leads to the rest of it. -/
theorem isMade_cons_iff :
    IsMade network most start ⟨hop :: rest, last⟩ ↔
      start = hop ∧ ∃ later more, hop.Leads network later ∧ most = more + 1 ∧
        IsMade network more later ⟨rest, last⟩ := by
  obtain ⟨next, further, shape⟩ : ∃ next further, rest ++ [last] = next :: further :=
    List.exists_cons_of_ne_nil (List.append_ne_nil_of_right_ne_nil rest (List.cons_ne_nil last []))
  have hops : hops ⟨hop :: rest, last⟩ = hop :: next :: further := congrArg (hop :: ·) shape
  constructor
  · intro made
    have linked := made.linked
    rw [hops, List.isChain_cons_cons] at linked
    have few : rest.length + 1 ≤ most := made.few
    obtain ⟨more, rfl⟩ := Nat.exists_eq_add_of_le' (Nat.le_trans (Nat.le_add_left 1 _) few)
    refine ⟨(Option.some.inj made.starts).symm, next, more, linked.1, rfl, ?_⟩
    exact
      { starts := by rw [Journey.hops, shape, List.head?_cons]
        linked := by rw [Journey.hops, shape]; exact linked.2
        few := Nat.le_of_succ_le_succ few
        persists := fun later leads => Nat.succ.inj (made.persists later leads) }
  · rintro ⟨rfl, later, more, leads, rfl, made⟩
    have starts := made.starts
    have linked := made.linked
    rw [Journey.hops, shape] at starts linked
    cases starts
    exact
      { starts := by rw [hops, List.head?_cons]
        linked := by rw [hops]; exact List.isChain_cons_cons.mpr ⟨leads, linked⟩
        few := Nat.succ_le_succ made.few
        persists := fun later leads => congrArg (· + 1) (made.persists later leads) }

/-- There is a journey from every hop. -/
theorem exists_isMade (network : Network) (most : Nat) (start : Hop) :
    ∃ journey, IsMade network most start journey := by
  induction most generalizing start with
  | zero => exact ⟨⟨[], start⟩, isMade_nil_iff.mpr ⟨rfl, fun _ _ => rfl⟩⟩
  | succ most inductionHypothesis =>
    by_cases final : ∃ later, start.Leads network later
    · obtain ⟨later, leads⟩ := final
      obtain ⟨journey, made⟩ := inductionHypothesis later
      exact ⟨⟨start :: journey.redirected, journey.last⟩,
        isMade_cons_iff.mpr ⟨rfl, later, most, leads, rfl, made⟩⟩
    · exact ⟨⟨[], start⟩,
        isMade_nil_iff.mpr ⟨rfl, fun later leads => absurd ⟨later, leads⟩ final⟩⟩

/-- There is only one journey from a hop. -/
theorem IsMade.unique {other : Journey} (made : IsMade network most start journey)
    (also : IsMade network most start other) : journey = other := by
  obtain ⟨redirected, last⟩ := journey
  obtain ⟨otherRedirected, otherLast⟩ := other
  induction redirected generalizing start most otherRedirected with
  | nil =>
    obtain ⟨rfl, final⟩ := isMade_nil_iff.mp made
    cases otherRedirected with
    | nil => rw [(isMade_nil_iff.mp also).1]
    | cons hop rest =>
      obtain ⟨rfl, later, more, leads, rfl, _⟩ := isMade_cons_iff.mp also
      cases final later leads
  | cons hop rest inductionHypothesis =>
    obtain ⟨rfl, later, more, leads, rfl, further⟩ := isMade_cons_iff.mp made
    cases otherRedirected with
    | nil =>
      obtain ⟨rfl, final⟩ := isMade_nil_iff.mp also
      cases final later leads
    | cons otherHop otherRest =>
      obtain ⟨rfl, otherLater, otherMore, alsoLeads, same, alsoFurther⟩ := isMade_cons_iff.mp also
      cases same
      cases leads.1.symm.trans alsoLeads.1
      cases inductionHypothesis further otherRest alsoFurther
      rfl

/-- The hops of a journey are numbered one after another. -/
theorem IsMade.number_last (made : IsMade network most start journey) :
    journey.last.number = start.number + journey.redirected.length := by
  obtain ⟨redirected, last⟩ := journey
  induction redirected generalizing start most with
  | nil => rw [(isMade_nil_iff.mp made).1, List.length_nil, Nat.add_zero]
  | cons hop rest inductionHypothesis =>
    obtain ⟨rfl, later, more, ⟨sent, _⟩, rfl, further⟩ := isMade_cons_iff.mp made
    rw [inductionHypothesis further, Hop.number_of_next? sent, List.length_cons, Nat.add_assoc,
      Nat.add_comm 1]

/-- What holds of the first errand and stays when a client is sent on holds of every errand. -/
theorem IsMade.forall_errand (holds : Errand → Prop) (made : IsMade network most start journey)
    (first : holds start.errand)
    (stays : ∀ errand status url, holds errand → holds (errand.redirected status url)) :
    ∀ hop ∈ journey.hops, holds hop.errand := by
  obtain ⟨redirected, last⟩ := journey
  induction redirected generalizing start most with
  | nil =>
    intro hop member
    cases List.mem_singleton.mp member
    exact (isMade_nil_iff.mp made).1 ▸ first
  | cons hop rest inductionHypothesis =>
    obtain ⟨rfl, later, more, ⟨sent, _⟩, rfl, further⟩ := isMade_cons_iff.mp made
    obtain ⟨status, _, _, url, _, _, redirected⟩ := Hop.exists_answer_of_next? sent
    have onward : holds later.errand := redirected ▸ stays _ status url first
    intro other member
    rcases List.mem_cons.mp member with rfl | member
    · exact first
    · exact inductionHypothesis onward further other member

/-- A hop that is not sent on is the last one. -/
theorem IsMade.eq_last (made : IsMade network most start journey) (member : hop ∈ journey.hops)
    (final : hop.next? network = none) : hop = journey.last := by
  obtain ⟨redirected, last⟩ := journey
  induction redirected generalizing start most with
  | nil => exact List.mem_singleton.mp member
  | cons first rest inductionHypothesis =>
    obtain ⟨rfl, later, more, ⟨sent, _⟩, rfl, further⟩ := isMade_cons_iff.mp made
    rcases List.mem_cons.mp member with rfl | member
    · cases sent.symm.trans final
    · exact inductionHypothesis further member

/-- A journey whose first hop is not sent on has no other hops. -/
theorem IsMade.hops_of_final (made : IsMade network most start journey)
    (final : start.next? network = none) : journey.hops = [start] := by
  obtain ⟨redirected, last⟩ := journey
  cases redirected with
  | nil => rw [(isMade_nil_iff.mp made).1, hops, List.nil_append]
  | cons first rest =>
    obtain ⟨rfl, later, more, ⟨sent, _⟩, rfl, further⟩ := isMade_cons_iff.mp made
    cases sent.symm.trans final

/-- A journey adds an entry to the trace for each of its hops. -/
theorem length_trace (network : Network) (journey : Journey) :
    (journey.trace network).length = journey.redirected.length + 1 := by
  rw [trace, List.length_map, hops, List.length_append, List.length_singleton]

end Journey

/-- What the other side sees are requests of hops. -/
theorem Trace.exists_of_mem_requests {network : Network} {hops : List Hop} {request : Request}
    (seen : request ∈ Trace.requests (hops.map (·.seen? network))) :
    ∃ hop ∈ hops, hop.errand.request = request := by
  obtain ⟨entry, member, same⟩ := List.mem_filterMap.mp seen
  obtain ⟨hop, made, rfl⟩ := List.mem_map.mp member
  refine ⟨hop, made, ?_⟩
  rw [id, Hop.seen?] at same
  cases reply : hop.reply network with
  | refusal =>
    rw [reply] at same
    cases same
  | answer | close | silence =>
    rw [reply] at same
    exact Option.some.inj same

namespace Network

variable {network : Network} {most : Nat} {start : Hop} {journey : Journey} {trace : Trace}

/-- A hop is made, and where its answer sends the client on, the run goes on from there. -/
theorem run_eq (network : Network) (left : Nat) {hop : Hop} (numbered : trace.length = hop.number) :
    network.run left hop.errand trace =
      match hop.next? network, left with
      | none, _ => ((hop.reply network).outcome, trace ++ [hop.seen? network])
      | some _, 0 => (.error .tooManyRedirects, trace ++ [hop.seen? network])
      | some later, left + 1 =>
        if isWeb later.errand.url then
          network.run left later.errand (trace ++ [hop.seen? network])
        else (.error .unsupportedScheme, trace ++ [hop.seen? network]) := by
  have asked : network.reply hop.errand.url trace.length = hop.reply network := by
    rw [numbered, Hop.reply]
  rw [run, asked, Hop.next?, Hop.seen?]
  cases (hop.reply network).outcome with
  | error fault => rfl
  | ok response =>
    dsimp only
    cases network.onward? hop.errand response with
    | none => rfl
    | some onward => cases left <;> rfl

/-- An errand is run as a journey. -/
theorem run_of_isMade (made : journey.IsMade network most start)
    (numbered : trace.length = start.number) :
    network.run most start.errand trace =
      (journey.outcome network most, trace ++ journey.trace network) := by
  obtain ⟨redirected, last⟩ := journey
  induction redirected generalizing start most trace with
  | nil =>
    obtain ⟨rfl, final⟩ := Journey.isMade_nil_iff.mp made
    rw [run_eq network most numbered, Journey.outcome]
    cases sent : start.next? network with
    | none => rfl
    | some later =>
      cases most with
      | zero => rfl
      | succ most =>
        have foreign : ¬isWeb later.errand.url = true := fun web => nomatch final later ⟨sent, web⟩
        dsimp only
        rw [if_neg foreign]
        rfl
  | cons hop rest inductionHypothesis =>
    obtain ⟨rfl, later, more, ⟨sent, web⟩, rfl, further⟩ := Journey.isMade_cons_iff.mp made
    have extended : (trace ++ [start.seen? network]).length = later.number := by
      rw [List.length_append, List.length_singleton, numbered, ← Hop.number_of_next? sent]
    have outcome : Journey.outcome network more ⟨rest, last⟩ =
        Journey.outcome network (more + 1) ⟨start :: rest, last⟩ := by
      simp only [Journey.outcome, List.length_cons, Nat.add_lt_add_iff_right]
    rw [run_eq network _ numbered, sent]
    dsimp only
    rw [if_pos web, inductionHypothesis extended further, outcome, List.append_assoc]
    rfl

/-- A URL that can be asked for is asked for along a journey. -/
theorem exchange_of_isMade {url : Url} {method : Method} {content : Option Content}
    (askable : Askable url)
    (made : journey.IsMade network redirectLimit ⟨⟨url, method, content⟩, trace.length⟩) :
    network.exchange url method content trace =
      (journey.outcome network redirectLimit, trace ++ journey.trace network) := by
  obtain ⟨web, sendable⟩ := askable
  rw [exchange, isWeb_iff.mpr web, sendable, if_neg (by decide), if_neg (by decide)]
  exact run_of_isMade made rfl

/-- A URL that cannot be asked for is not. -/
theorem exchange_of_not_askable (network : Network) {url : Url} (unaskable : ¬Askable url)
    (method : Method) (content : Option Content) (trace : Trace) :
    network.exchange url method content trace = (.error (obstacle url), trace) := by
  rw [exchange, obstacle]
  by_cases web : isWeb url = true
  · have unsendable : isSendable url = false :=
      Bool.eq_false_iff.mpr fun sendable => unaskable ⟨isWeb_iff.mp web, sendable⟩
    rw [web, unsendable]
    rfl
  · rw [Bool.eq_false_iff.mpr web]
    rfl

end Network

end FriendGraph.Http
