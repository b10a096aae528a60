import FriendGraph.Proofs.Fetching

/-! # What is asked for while contacts are fetched

A fetch is a row of visits. A visit asks for one page again and again (`GraphClient.Visit`): it
makes at most four attempts, each of them a journey from the URL of the page, and another one only
directly after a transient failure (`Visit.IsMade`). The next visit is to the page under the link of
the one that was got (`Visit.Links`), and there are no more of them than pages may be followed
(`GraphClient.Itinerary`). The visits account for all that a fetch does: the other side sees what
they ask for and nothing else, and how the fetch ends is decided by the last of them
(`GraphClient.requests_follow_the_pages`). Where no answer sends the client on, what they ask for
are their pages; where answers do, it may be anything (`GraphClient.requests_leave_the_pages`).
-/

namespace FriendGraph

/-- What is made of items, of each so many at most. -/
theorem length_flatMap_le {Item Made : Type} {items : List Item} {makes : Item → List Made}
    {each : Nat} (few : ∀ item ∈ items, (makes item).length ≤ each) :
    (items.flatMap makes).length ≤ items.length * each := by
  induction items with
  | nil => exact Nat.zero_le _
  | cons item rest inductionHypothesis =>
    obtain ⟨now, later⟩ := List.forall_mem_cons.mp few
    rw [List.flatMap_cons, List.length_append, List.length_cons, Nat.succ_mul, Nat.add_comm]
    exact Nat.add_le_add (inductionHypothesis later) now

namespace Http

/-- No answer sends the client on. -/
def Network.Stays (network : Network) : Prop := ∀ hop : Hop, hop.next? network = none

/-- What the other side sees of hops are the requests of those that it does not refuse. -/
theorem requests_map_seen? (network : Network) (hops : List Hop) :
    Trace.requests (hops.map (·.seen? network)) =
      (hops.filter fun hop => hop.reply network ≠ .refusal).map (·.errand.request) := by
  induction hops with
  | nil => rfl
  | cons hop rest inductionHypothesis =>
    rw [Trace.requests] at inductionHypothesis
    rw [Trace.requests, List.map_cons, List.filter_cons]
    cases reply : hop.reply network with
    | refusal =>
      rw [Hop.seen?, reply]
      exact inductionHypothesis
    | answer | close | silence =>
      rw [Hop.seen?, reply]
      exact congrArg (hop.errand.request :: ·) inductionHypothesis

/-- Every journey in a network where answers do not send the client on is a single hop. -/
theorem Journey.IsMade.hops_of_stays {network : Network} {most : Nat} {start : Hop}
    {journey : Journey} (made : journey.IsMade network most start) (stays : network.Stays) :
    journey.hops = [start] := made.hops_of_final (stays start)

end Http

namespace GraphClient

open Http (Askable Hop Journey Network Trace redirectLimit)

/-- A page that is asked for: its URL, the number of the first hop, and the attempts. -/
structure Visit where
  url : Url
  first : Nat
  attempts : List Journey

namespace Visit

/-- The hops of all attempts. -/
def hops (visit : Visit) : List Hop := visit.attempts.flatMap Journey.hops

/-- The number of the hop after the visit. -/
def next (visit : Visit) : Nat := visit.first + visit.hops.length

/-- What the other side sees of the attempts. -/
def trace (network : Network) (visit : Visit) : Trace := visit.hops.map (·.seen? network)

/-- What a visit comes to is what its last attempt comes to. -/
def outcome (network : Network) (visit : Visit) : Except ContactsError ContactPage :=
  match visit.attempts.getLast? with
  | some attempt => result network attempt
  | none => .error (.transfer (Http.obstacle visit.url))

/-- The contacts on the page that a visit gets. -/
def contacts (network : Network) (visit : Visit) : List Contact :=
  match visit.outcome network with
  | .ok page => page.contacts
  | .error _ => []

/-- A visit as it is made with at most so many attempts. -/
structure IsMade (network : Network) (most : Nat) (visit : Visit) : Prop where
  /-- There is an attempt exactly if the URL can be asked for. -/
  asked : visit.attempts ≠ [] ↔ Askable visit.url
  few : visit.attempts.length ≤ most
  /-- Every attempt starts at the URL, with the hop after those of the attempts before. -/
  anew : ∀ earlier attempt later, visit.attempts = earlier ++ attempt :: later →
    IsAttempt network visit.url (visit.first + (earlier.flatMap Journey.hops).length) attempt
  /-- Another attempt follows only a transient failure. -/
  again : ∀ attempt ∈ visit.attempts.dropLast, (attempt.last.reply network).IsTransient
  /-- After a transient failure the attempts end only when all are made. -/
  persists : ∀ attempt ∈ visit.attempts.getLast?, (attempt.last.reply network).IsTransient →
    visit.attempts.length = most

/-- One visit leads to another: it gets a page whose link is to the URL of the other, which is asked
for next. -/
def Links (network : Network) (visit later : Visit) : Prop :=
  ∃ page link, visit.outcome network = .ok page ∧ page.next = some link ∧
    Url.parse? link = some later.url ∧ later.first = visit.next

end Visit

/-- The visits of a fetch that starts at a URL with the hop of a number and follows at most so many
pages. -/
structure Itinerary (network : Network) (most : Nat) (url : Url) (first : Nat)
    (visits : List Visit) : Prop where
  starts : ∀ visit ∈ visits.head?, visit.url = url ∧ visit.first = first
  made : ∀ visit ∈ visits, visit.IsMade network 4
  /-- Every visit after the first one is to the page under the link of the one before. -/
  linked : visits.IsChain (Visit.Links network)
  few : visits.length ≤ most
  /-- Where there is a link, the visits end only when no further page may be followed. -/
  persists : (∀ visit ∈ visits.getLast?, ∃ later, visit.Links network later) →
    visits.length = most

/-- How a fetch with these visits ends: with all contacts after a page without a link; otherwise
with the error of the last attempt, with an unusable link, or because no further page may be
followed. -/
def ending (client : GraphClient) (network : Network) (visits : List Visit) :
    Except ContactsError (List Contact) :=
  match visits.getLast? with
  | none => .error (.unexpected (.tooManyPages client.maxPages))
  | some last =>
    match last.outcome network with
    | .error error => .error error
    | .ok page =>
      match page.next.map Url.parse? with
      | none => .ok (visits.flatMap (·.contacts network))
      | some none => .error (.unexpected .pagingLink)
      | some (some _) => .error (.unexpected (.tooManyPages client.maxPages))

variable {client : GraphClient} {network : Network} {url : Url} {trace : Trace}

/-! ## One page -/

namespace Visit

variable {first most : Nat} {attempt journey : Journey} {attempts : List Journey} {visit : Visit}

theorem length_trace (visit : Visit) : (visit.trace network).length = visit.hops.length :=
  List.length_map _

/-- The hops of the first attempt come first. -/
theorem hops_cons : hops ⟨url, first, journey :: attempts⟩ =
    journey.hops ++ hops ⟨url, journey.last.number + 1, attempts⟩ := List.flatMap_cons

/-- What is seen of the first attempt comes first. -/
theorem trace_cons : Visit.trace network ⟨url, first, journey :: attempts⟩ =
    journey.trace network ++ Visit.trace network ⟨url, journey.last.number + 1, attempts⟩ := by
  rw [trace, hops_cons, List.map_append]
  rfl

/-- An attempt ends where the next one may start. -/
theorem next_attempt (made : IsAttempt network url first journey) :
    journey.last.number + 1 = first + journey.hops.length := by
  rw [made.number_last, Journey.hops, List.length_append, List.length_singleton, Nat.add_assoc]

/-- What cannot be asked for is not attempted. -/
theorem isMade_none (unaskable : ¬Askable url) : IsMade network most ⟨url, first, []⟩ where
  asked := iff_of_false (fun some => some rfl) unaskable
  few := Nat.zero_le most
  anew := fun _ _ _ none => nomatch (List.append_eq_nil_iff.mp none.symm).2
  again := fun _ earlier => nomatch earlier
  persists := fun _ last => nomatch last

/-- A single attempt is a visit, unless its failure is transient and more are left. -/
theorem isMade_one (askable : Askable url) (positive : 1 ≤ most)
    (made : IsAttempt network url first journey)
    (final : (journey.last.reply network).IsTransient → most = 1) :
    IsMade network most ⟨url, first, [journey]⟩ where
  asked := iff_of_true (List.cons_ne_nil journey []) askable
  few := positive
  anew := by
    intro earlier other later single
    cases earlier with
    | nil =>
      cases single
      exact made
    | cons before earlier =>
      have none : earlier ++ other :: later = [] := (List.cons.inj single).2.symm
      exact absurd (List.append_eq_nil_iff.mp none).2 (List.cons_ne_nil other later)
  again := fun _ earlier => nomatch earlier
  persists := by
    intro other last transient
    cases Option.mem_some.mp last
    exact (final transient).symm

/-- A visit goes on after a transient failure. -/
theorem IsMade.cons (later : IsMade network most ⟨url, journey.last.number + 1, attempts⟩)
    (some : attempts ≠ []) (made : IsAttempt network url first journey)
    (transient : (journey.last.reply network).IsTransient) :
    IsMade network (most + 1) ⟨url, first, journey :: attempts⟩ where
  asked := iff_of_true (List.cons_ne_nil _ _) (later.asked.mp some)
  few := Nat.succ_le_succ later.few
  anew := by
    intro earlier attempt rest shape
    cases earlier with
    | nil =>
      cases shape
      exact made
    | cons before earlier =>
      have further := later.anew earlier attempt rest (List.cons.inj shape).2
      rw [← (List.cons.inj shape).1]
      rwa [next_attempt made, Nat.add_assoc, ← List.length_append, ← List.flatMap_cons] at further
  again := by
    intro attempt earlier
    rw [List.dropLast_cons_of_ne_nil some, List.mem_cons] at earlier
    rcases earlier with rfl | further
    · exact transient
    · exact later.again attempt further
  persists := by
    intro attempt last failed
    rw [List.getLast?_cons_of_ne_nil some] at last
    exact congrArg (· + 1) (later.persists attempt last failed)

/-- What a visit comes to does not depend on its first attempt if there are more. -/
theorem outcome_cons (some : attempts ≠ []) :
    outcome network ⟨url, first, journey :: attempts⟩ =
      outcome network ⟨url, journey.last.number + 1, attempts⟩ := by
  rw [outcome, List.getLast?_cons_of_ne_nil some, outcome]

/-- Every attempt of a visit is one to get its page, from some hop on. -/
theorem IsMade.exists_isAttempt (made : visit.IsMade network most)
    (tried : attempt ∈ visit.attempts) : ∃ number, IsAttempt network visit.url number attempt := by
  obtain ⟨earlier, later, shape⟩ := List.append_of_mem tried
  exact ⟨_, made.anew earlier attempt later shape⟩

/-- A visit makes at most eleven hops for each attempt that it may make. -/
theorem IsMade.length_hops_le (made : visit.IsMade network most) :
    visit.hops.length ≤ most * (redirectLimit + 1) := by
  refine (length_flatMap_le fun attempt tried => ?_).trans (Nat.mul_le_mul_right _ made.few)
  obtain ⟨_, isAttempt⟩ := made.exists_isAttempt tried
  rw [Journey.hops, List.length_append, List.length_singleton]
  exact Nat.succ_le_succ isAttempt.few

/-- Every hop of a visit gets what is there, wherever it is sent on to. -/
theorem IsMade.gets (made : visit.IsMade network most) :
    ∀ hop ∈ visit.hops, hop.errand.method = .get ∧ hop.errand.content = none := by
  intro hop member
  obtain ⟨attempt, tried, inside⟩ := List.mem_flatMap.mp member
  obtain ⟨_, isAttempt⟩ := made.exists_isAttempt tried
  refine isAttempt.forall_errand
    (fun errand => errand.method = .get ∧ errand.content = none) ⟨rfl, rfl⟩ ?_ hop inside
  intro errand status location kept
  rw [Http.Errand.redirected]
  split
  · exact kept
  · exact ⟨rfl, rfl⟩

/-- The other side sees requests to get what is at the URLs of the hops that it takes. -/
theorem IsMade.requests (made : visit.IsMade network most) :
    Trace.requests (visit.trace network) =
      (visit.hops.filter fun hop => hop.reply network ≠ .refusal).map fun hop =>
        ⟨.get, hop.errand.url.target, none⟩ := by
  rw [trace, Http.requests_map_seen?]
  refine List.map_congr_left fun hop taken => ?_
  obtain ⟨got, empty⟩ := made.gets hop (List.mem_of_mem_filter taken)
  rw [Http.Errand.request, got, empty]

/-- Where no answer sends the client on, a visit asks for its page at most four times, and for
nothing else. -/
theorem IsMade.requests_of_stays (made : visit.IsMade network most) (stays : network.Stays) :
    ∃ count ≤ most,
      Trace.requests (visit.trace network) =
        List.replicate count ⟨.get, visit.url.target, none⟩ := by
  have single : ∀ attempt ∈ visit.attempts, ∃ number,
      attempt.hops = [⟨⟨visit.url, .get, none⟩, number⟩] := by
    intro attempt tried
    obtain ⟨number, isAttempt⟩ := made.exists_isAttempt tried
    exact ⟨number, isAttempt.hops_of_stays stays⟩
  have hops : visit.hops.length ≤ visit.attempts.length * 1 := by
    refine length_flatMap_le fun attempt tried => ?_
    obtain ⟨number, alone⟩ := single attempt tried
    rw [alone, List.length_singleton]
  rw [Nat.mul_one] at hops
  rw [made.requests]
  refine ⟨_, ((List.length_filter_le _ _).trans hops).trans made.few,
    List.eq_replicate_iff.mpr ⟨List.length_map _, fun request asked => ?_⟩⟩
  obtain ⟨hop, taken, rfl⟩ := List.mem_map.mp asked
  obtain ⟨attempt, tried, inside⟩ := List.mem_flatMap.mp (List.mem_of_mem_filter taken)
  obtain ⟨number, alone⟩ := single attempt tried
  rw [alone] at inside
  cases List.mem_singleton.mp inside
  rfl

end Visit

/-- The attempts to get a page that can be asked for are a visit. -/
theorem attempts_of_askable (askable : Askable url) (more : Nat) (trace : Trace) :
    ∃ journeys, Visit.IsMade network (more + 1) ⟨url, trace.length, journeys⟩ ∧
      attempts network url more trace =
        (Visit.outcome network ⟨url, trace.length, journeys⟩,
          trace ++ Visit.trace network ⟨url, trace.length, journeys⟩) := by
  induction more generalizing trace with
  | zero =>
    obtain ⟨journey, made⟩ := exists_isAttempt network url trace.length
    refine ⟨[journey], Visit.isMade_one askable (Nat.le_refl 1) made fun _ => rfl, ?_⟩
    rw [attempts, attempt_of_isAttempt askable made, Visit.trace_cons]
    exact congrArg (_, trace ++ ·) (List.append_nil _).symm
  | succ more inductionHypothesis =>
    obtain ⟨journey, made⟩ := exists_isAttempt network url trace.length
    rw [attempts_succ, attempt_of_isAttempt askable made]
    by_cases transient : (journey.last.reply network).IsTransient
    · obtain ⟨error, failed, worth⟩ := result_transient_iff.mpr transient
      obtain ⟨journeys, further, asked⟩ := inductionHypothesis (trace ++ journey.trace network)
      rw [made.length_append] at further asked
      have some : journeys ≠ [] := further.asked.mpr askable
      refine ⟨journey :: journeys, further.cons some made transient, ?_⟩
      simp only [failed, worth, ↓reduceIte]
      rw [asked, Visit.outcome_cons some, Visit.trace_cons, List.append_assoc]
    · refine ⟨[journey], Visit.isMade_one askable (Nat.succ_pos _) made
        fun now => absurd now transient, ?_⟩
      have once : Visit.outcome network ⟨url, trace.length, [journey]⟩ = result network journey :=
        rfl
      have alone : Visit.trace network ⟨url, trace.length, [journey]⟩ = journey.trace network := by
        rw [Visit.trace_cons]
        exact List.append_nil _
      rw [once, alone]
      cases answer : result network journey with
      | ok page => rfl
      | error error =>
        have lasting : error.isTransient = false :=
          Bool.eq_false_iff.mpr fun worth =>
            transient (result_transient_iff.mp ⟨error, answer, worth⟩)
        simp only [lasting, Bool.false_eq_true, ↓reduceIte]

/-- Getting a page is a visit to it. -/
theorem exists_visit (network : Network) (url : Url) (trace : Trace) :
    ∃ visit : Visit, visit.url = url ∧ visit.first = trace.length ∧ visit.IsMade network 4 ∧
      attempts network url furtherAttempts trace =
        (visit.outcome network, trace ++ visit.trace network) := by
  by_cases askable : Askable url
  · obtain ⟨journeys, made, asked⟩ := attempts_of_askable askable furtherAttempts trace
    exact ⟨⟨url, trace.length, journeys⟩, rfl, rfl, made, asked⟩
  · refine ⟨⟨url, trace.length, []⟩, rfl, rfl, Visit.isMade_none askable, ?_⟩
    rw [attempts_of_not_askable network askable]
    exact congrArg _ (List.append_nil trace).symm

/-! ## All pages -/

/-- A fetch that makes one visit ends as that says. -/
theorem ending_singleton (visit : Visit) :
    client.ending network [visit] =
      match visit.outcome network with
      | .error error => .error error
      | .ok page =>
        match page.next.map Url.parse? with
        | none => .ok page.contacts
        | some none => .error (.unexpected .pagingLink)
        | some (some _) => .error (.unexpected (.tooManyPages client.maxPages)) := by
  have single : [visit].flatMap (·.contacts network) = visit.contacts network := by
    rw [List.flatMap_cons, List.flatMap_nil, List.append_nil]
  rw [ending, List.getLast?_singleton, single, Visit.contacts]
  dsimp only
  cases visit.outcome network <;> rfl

/-- A page with a link is put before what the visits after it end with. -/
theorem ending_cons {visit : Visit} {page : ContactPage} {link : String} {linked : Url}
    (got : visit.outcome network = .ok page) (named : page.next = some link)
    (parsed : Url.parse? link = some linked) (visits : List Visit) :
    client.ending network (visit :: visits) =
      (client.ending network visits).map (page.contacts ++ ·) := by
  cases visits with
  | nil =>
    simp only [ending_singleton, got, named, Option.map_some, parsed]
    rfl
  | cons next rest =>
    have first : visit.contacts network = page.contacts := by rw [Visit.contacts, got]
    rw [ending, ending, List.getLast?_cons_cons, List.flatMap_cons, first]
    cases (next :: rest).getLast? with
    | none => rfl
    | some last =>
      dsimp only
      cases last.outcome network with
      | error error => rfl
      | ok other =>
        dsimp only
        cases other.next.map Url.parse? with
        | none => rfl
        | some parsed => cases parsed <;> rfl

namespace Itinerary

variable {visit : Visit} {visits : List Visit} {left : Nat}

/-- A visit that leads nowhere is all there is. -/
theorem single (made : visit.IsMade network 4) (final : ∀ later, ¬visit.Links network later) :
    Itinerary network (left + 1) visit.url visit.first [visit] where
  starts := by
    intro start head
    cases Option.mem_some.mp head
    exact ⟨rfl, rfl⟩
  made := by
    intro other member
    cases List.mem_singleton.mp member
    exact made
  linked := List.isChain_singleton visit
  few := Nat.succ_le_succ (Nat.zero_le left)
  persists := by
    intro further
    obtain ⟨later, links⟩ := further visit rfl
    exact absurd links (final later)

/-- A visit that leads to the first of others comes before them. -/
theorem cons {page : ContactPage} {link : String} {linked : Url} (made : visit.IsMade network 4)
    (got : visit.outcome network = .ok page) (named : page.next = some link)
    (parsed : Url.parse? link = some linked)
    (rest : Itinerary network left linked visit.next visits) :
    Itinerary network (left + 1) visit.url visit.first (visit :: visits) where
  starts := by
    intro start head
    cases Option.mem_some.mp head
    exact ⟨rfl, rfl⟩
  made := List.forall_mem_cons.mpr ⟨made, rest.made⟩
  linked := by
    refine List.isChain_cons.mpr ⟨fun next head => ?_, rest.linked⟩
    obtain ⟨sameUrl, sameFirst⟩ := rest.starts next head
    exact ⟨page, link, got, named, sameUrl ▸ parsed, sameFirst⟩
  few := Nat.succ_le_succ rest.few
  persists := by
    intro further
    refine congrArg (· + 1) (rest.persists fun last isLast => further last ?_)
    rw [List.getLast?_cons, Option.mem_def.mp isLast]
    rfl

/-- Where no page may be followed nothing is visited. -/
theorem eq_nil (itinerary : Itinerary network 0 url left visits) : visits = [] :=
  List.length_eq_zero_iff.mp (Nat.le_zero.mp itinerary.few)

/-- What is made on each visit so often at most is made so often at most on each page. -/
theorem length_le_of_visits {Made : Type} {most first each : Nat} {makes : Visit → List Made}
    (itinerary : Itinerary network most url first visits)
    (few : ∀ visit ∈ visits, (makes visit).length ≤ each) :
    (visits.flatMap makes).length ≤ each * most :=
  calc (visits.flatMap makes).length
      ≤ visits.length * each := length_flatMap_le few
    _ ≤ each * most := by
      rw [Nat.mul_comm]
      exact Nat.mul_le_mul_left each itinerary.few

end Itinerary

/-- Following the pages from a URL on is a row of visits. -/
theorem exists_itinerary (client : GraphClient) (network : Network) (left : Nat) (url : Url)
    (found : List Contact) (trace : Trace) :
    ∃ visits, Itinerary network left url trace.length visits ∧
      follow client network left url found trace =
        ((client.ending network visits).map (found ++ ·),
          trace ++ visits.flatMap (·.trace network)) := by
  induction left generalizing url found trace with
  | zero =>
    refine ⟨[], ?_, congrArg _ (List.append_nil trace).symm⟩
    exact
      { starts := fun _ head => nomatch head
        made := fun _ member => nomatch member
        linked := List.IsChain.nil
        few := Nat.le_refl 0
        persists := fun _ => rfl }
  | succ left inductionHypothesis =>
    obtain ⟨visit, rfl, start, made, asked⟩ := exists_visit network url trace
    have alone : [visit].flatMap (·.trace network) = visit.trace network := by
      rw [List.flatMap_cons, List.flatMap_nil, List.append_nil]
    rw [follow_succ, asked, ← start]
    cases got : visit.outcome network with
    | error error =>
      refine ⟨[visit], .single made ?_, ?_⟩
      · rintro later ⟨page, link, other, _⟩
        cases got.symm.trans other
      · rw [ending_singleton, got, alone]
        rfl
    | ok page =>
      cases named : page.next with
      | none =>
        refine ⟨[visit], .single made ?_, ?_⟩
        · rintro later ⟨other, link, same, alsoNamed, _⟩
          cases got.symm.trans same
          cases named.symm.trans alsoNamed
        · rw [ending_singleton, got, alone]
          simp only [named]
          rfl
      | some link =>
        cases parsed : Url.parse? link with
        | none =>
          refine ⟨[visit], .single made ?_, ?_⟩
          · rintro later ⟨other, alsoLink, same, alsoNamed, alsoParsed, _⟩
            cases got.symm.trans same
            cases named.symm.trans alsoNamed
            cases parsed.symm.trans alsoParsed
          · rw [ending_singleton, got, alone]
            simp only [named, parsed, Option.map_some]
            rfl
        | some linked =>
          obtain ⟨visits, itinerary, followed⟩ := inductionHypothesis linked
            (found ++ page.contacts) (trace ++ visit.trace network)
          rw [List.length_append, visit.length_trace, ← start, ← Visit.next] at itinerary
          refine ⟨visit :: visits, .cons made got named parsed itinerary, ?_⟩
          simp only [named, parsed]
          rw [followed, ending_cons got named parsed, List.flatMap_cons, List.append_assoc]
          refine congrArg (·, _) ?_
          cases client.ending network visits with
          | error error => rfl
          | ok contacts => exact congrArg Except.ok (List.append_assoc found page.contacts contacts)

/-- The requests of a row of visits are those of the visits. -/
theorem requests_flatMap (network : Network) (visits : List Visit) :
    Trace.requests (visits.flatMap (·.trace network)) =
      visits.flatMap fun visit => Trace.requests (visit.trace network) :=
  List.filterMap_flatMap

/-- **What is asked for follows the pages.** Whatever the other side does, a fetch makes the
requests of its visits and no others, and ends as the last of them says. The visits are to the first
page and then to the page under the link of the one before, for at most so many pages. Each of them
makes between none and four attempts in a row, all from the URL of its page, and again only after a
transient failure; an attempt gets what is at that URL and then, ten times at most, what is where
the answer sends it. Where no answer does, each visit makes at most four requests, all for its page.
Without a usable address of the first page, or if no page may be followed, nothing is asked for. -/
theorem requests_follow_the_pages (client : GraphClient) (network : Network) (token : String)
    (trace : Trace) :
    (client.firstPage? token = none →
      client.fetch network token trace = (.error (.unexpected .graphUrl), trace)) ∧
    (∀ url, client.firstPage? token = some url →
      ∃ visits, Itinerary network client.maxPages url trace.length visits ∧
        client.fetch network token trace =
          (client.ending network visits, trace ++ visits.flatMap (·.trace network)) ∧
        ∀ visit ∈ visits,
          (Trace.requests (visit.trace network) =
            (visit.hops.filter fun hop => hop.reply network ≠ .refusal).map fun hop =>
              ⟨.get, hop.errand.url.target, none⟩) ∧
          (network.Stays → ∃ count ≤ 4, Trace.requests (visit.trace network) =
            List.replicate count ⟨.get, visit.url.target, none⟩)) ∧
    (client.maxPages = 0 → (client.fetch network token trace).2 = trace) ∧
    (Trace.requests (client.fetch network token trace).2).length ≤
      (Trace.requests trace).length + 4 * (redirectLimit + 1) * client.maxPages ∧
    (network.Stays → (Trace.requests (client.fetch network token trace).2).length ≤
      (Trace.requests trace).length + 4 * client.maxPages) := by
  cases first : client.firstPage? token with
  | none =>
    have failed : client.fetch network token trace = (.error (.unexpected .graphUrl), trace) := by
      rw [fetch, first]
    rw [failed]
    exact ⟨fun _ => rfl, (fun _ same => nomatch same), fun _ => rfl, Nat.le_add_right _ _,
      fun _ => Nat.le_add_right _ _⟩
  | some url =>
    obtain ⟨visits, itinerary, followed⟩ :=
      exists_itinerary client network client.maxPages url [] trace
    have fetched : client.fetch network token trace =
        (client.ending network visits, trace ++ visits.flatMap (·.trace network)) := by
      rw [fetch, first]
      refine followed.trans (congrArg (·, _) ?_)
      cases client.ending network visits <;> rfl
    have requested : (Trace.requests (client.fetch network token trace).2).length =
        (Trace.requests trace).length +
          (visits.flatMap fun visit => Trace.requests (visit.trace network)).length := by
      rw [fetched, Trace.requests, List.filterMap_append, List.length_append, ← requests_flatMap]
      rfl
    have made := itinerary.made
    refine ⟨(fun same => nomatch same), fun other same => ?_, fun none => ?_, ?_, fun stays => ?_⟩
    · cases same
      exact ⟨visits, itinerary, fetched, fun visit visited =>
        ⟨(made visit visited).requests, (made visit visited).requests_of_stays⟩⟩
    · rw [none] at itinerary
      rw [fetched, itinerary.eq_nil]
      exact List.append_nil trace
    · rw [requested]
      refine Nat.add_le_add_left (itinerary.length_le_of_visits fun visit visited => ?_) _
      exact ((List.length_filterMap_le _ _).trans visit.length_trace.le).trans
        (made visit visited).length_hops_le
    · rw [requested]
      refine Nat.add_le_add_left (itinerary.length_le_of_visits fun visit visited => ?_) _
      obtain ⟨count, few, asked⟩ := (made visit visited).requests_of_stays stays
      rw [asked, List.length_replicate]
      exact few

/-- A network that takes every other hop and always has a page that links to itself. -/
def endless : Network where
  reply _ hop :=
    if hop % 2 = 0 then .refusal else .answer 200 none "[[[\"a\"]],[\"http://[::1]/2\"]]"
  locate _ location := Url.parse? location

/-- Who follows three pages of an endless row makes six attempts, of which three are seen, and fails
because there are too many pages. -/
theorem requests_follow_the_pages_endless :
    endless.Stays ∧ ∃ url, (following 3).firstPage? "t" = some url ∧
      (∃ visits, Itinerary endless 3 url 0 visits ∧
        (following 3).fetch endless "t" [] =
          ((following 3).ending endless visits, visits.flatMap (·.trace endless)) ∧
        ∀ visit ∈ visits, ∃ count ≤ 4, Trace.requests (visit.trace endless) =
          List.replicate count ⟨.get, visit.url.target, none⟩) ∧
      ((following 3).fetch endless "t" []).2.length = 6 ∧
      (Trace.requests ((following 3).fetch endless "t" []).2).length = 3 := by
  have stays : endless.Stays := by
    intro hop
    unfold Hop.next? Hop.reply
    by_cases even : hop.number % 2 = 0
    · simp only [endless, even, ↓reduceIte, Http.Reply.outcome]
    · simp only [endless, even, ↓reduceIte]
      rfl
  obtain ⟨url, first⟩ : ∃ url, (following 3).firstPage? "t" = some url :=
    Option.isSome_iff_exists.mp (by decide +kernel)
  obtain ⟨_, visited, _, _⟩ := requests_follow_the_pages (following 3) endless "t" []
  obtain ⟨visits, itinerary, fetched, asked⟩ := visited url first
  exact ⟨stays, url, first,
    ⟨visits, itinerary, fetched, fun visit member => (asked visit member).2 stays⟩,
    by decide +kernel, by decide +kernel⟩

/-- A network that sends every hop on. -/
def roundabout : Network where
  reply _ _ := .answer 302 (some "http://[::1]/elsewhere") ""
  locate _ location := Url.parse? location

/-- Who is sent on again and again makes eleven requests for one page, and all but the first of them
are for something else. An address that is no URL is an error of its own. -/
theorem requests_leave_the_pages :
    Trace.requests ((following 1).fetch roundabout "t" []).2 =
        ⟨.get, "/me/friends?access_token=t&limit=2", none⟩ ::
          List.replicate 10 ⟨.get, "/elsewhere", none⟩ ∧
      ¬(Trace.requests ((following 1).fetch roundabout "t" []).2).length ≤
        4 * (following 1).maxPages ∧
      (GraphClient.fetch ⟨"nonsense", 2, 0⟩ roundabout "t" []).1 =
        .error (.unexpected .graphUrl) := by
  have asked : Trace.requests ((following 1).fetch roundabout "t" []).2 =
      ⟨.get, "/me/friends?access_token=t&limit=2", none⟩ ::
        List.replicate 10 ⟨.get, "/elsewhere", none⟩ := by
    decide +kernel
  rw [asked]
  exact ⟨rfl, by decide, by decide +kernel⟩

end GraphClient

end FriendGraph
