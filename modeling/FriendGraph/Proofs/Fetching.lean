import FriendGraph.Contacts.Graph
import FriendGraph.Proofs.Atomicity
import FriendGraph.Proofs.Hops
import FriendGraph.Session

/-! # Contacts are fetched completely or not at all

The other side of the network may do anything with any hop. What it has for a client is a chain of
pages (`GraphClient.Chain`): each page is delivered by one of at most four attempts, of which all
before it fail transiently (`GraphClient.Delivers`), and links to the next one, up to a page without
a link. An attempt is a journey from the URL of the page along the answers that send the client on.
A fetch answers exactly with the contacts of such a chain, if that is no longer than the client
follows, and fails whatever else happens; an import then does nothing.

Of the hops made so far only their number matters, so the chain is indexed by the number of the hop
that it starts with.
-/

namespace FriendGraph

namespace Http

/-- Another attempt may do better: no connection was made, the time ran out, or the other side says
that it is not available. -/
def Reply.IsTransient : Reply → Prop
  | .refusal => True
  | .silence => True
  | .answer status _ _ => status = 429 ∨ 500 ≤ status ∧ status < 600
  | .close => False

/-- The page in a successful answer. -/
def Reply.page? : Reply → Option ContactPage
  | .answer status _ body =>
    if 200 ≤ status ∧ status < 300 ∧ status ≠ 204 then ContactPage.parse? body else none
  | .refusal => none
  | .close => none
  | .silence => none

namespace Status

variable {status : Nat}

theorem isSuccess_iff : isSuccess status = true ↔ 200 ≤ status ∧ status < 300 := by
  simp [isSuccess]

theorem isServerError_iff : isServerError status = true ↔ 500 ≤ status ∧ status < 600 := by
  simp [isServerError]

theorem isSendable_iff : isSendable status = true ↔ 100 ≤ status ∧ status < 1000 := by
  simp [isSendable]

theorem isInterim_iff :
    isInterim status = true ↔ (100 ≤ status ∧ status < 200) ∧ status ≠ 101 := by
  simp [isInterim]

theorem hasBody_iff :
    hasBody status = true ↔ (status ≠ 101 ∧ status ≠ 204) ∧ status ≠ 304 := by
  simp [hasBody]

/-- A redirection has from 300 to 399. -/
theorem range_of_isRedirect (redirects : isRedirect status = true) :
    300 ≤ status ∧ status < 400 := by
  have one : status = 301 ∨ status = 302 ∨ status = 303 ∨ status = 307 ∨ status = 308 := by
    simpa [isRedirect, or_assoc] using redirects
  omega

end Status

end Http

namespace GraphClient

open Http (Askable Hop Journey Network Trace redirectLimit)

/-- An attempt to get a page: the journey from its URL that starts with the hop of a number. -/
def IsAttempt (network : Network) (url : Url) (first : Nat) (journey : Journey) : Prop :=
  journey.IsMade network redirectLimit ⟨⟨url, .get, none⟩, first⟩

/-- One of so many attempts from a hop on gets the page, and all before it fail transiently. The
hop after that has the last number. -/
inductive Obtains (network : Network) (url : Url) (page : ContactPage) : Nat → Nat → Nat → Prop
  | now {more first : Nat} {journey : Journey} (attempt : IsAttempt network url first journey)
      (got : (journey.last.reply network).page? = some page) :
      Obtains network url page (more + 1) first (journey.last.number + 1)
  | later {more first next : Nat} {journey : Journey}
      (attempt : IsAttempt network url first journey)
      (transient : (journey.last.reply network).IsTransient)
      (again : Obtains network url page more (journey.last.number + 1) next) :
      Obtains network url page (more + 1) first next

/-- The page at a URL is delivered from a hop on: one of at most four attempts gets it, and all
before it fail transiently. The hop after that has the last number. -/
def Delivers (network : Network) (url : Url) (first : Nat) (page : ContactPage) (next : Nat) :
    Prop :=
  Askable url ∧ Obtains network url page 4 first next

/-- The pages from a URL on, each under the link of the page before it, up to one without a link. -/
inductive Chain (network : Network) : Url → Nat → List ContactPage → Prop
  | last {url : Url} {first next : Nat} {page : ContactPage}
      (delivered : Delivers network url first page next) (final : page.next = none) :
      Chain network url first [page]
  | link {url : Url} {first next : Nat} {page : ContactPage} {link : String} {linked : Url}
      {pages : List ContactPage} (delivered : Delivers network url first page next)
      (named : page.next = some link) (parsed : Url.parse? link = some linked)
      (rest : Chain network linked next pages) :
      Chain network url first (page :: pages)

/-- The contacts of all pages behind an access token, in the order of the pages. -/
def Provides (client : GraphClient) (network : Network) (token : String) (first : Nat)
    (contacts : List Contact) : Prop :=
  ∃ url pages, client.firstPage? token = some url ∧ Chain network url first pages ∧
    pages.length ≤ client.maxPages ∧ contacts = pages.flatMap (·.contacts)

variable {client : GraphClient} {network : Network} {url : Url} {trace after : Trace}
  {page : ContactPage} {journey : Journey}

/-! ## One attempt -/

/-- What an attempt makes of a reply. -/
def read (reply : Http.Reply) : Except ContactsError ContactPage :=
  match reply.outcome with
  | .ok response => readPage response
  | .error fault => .error (.transfer fault)

theorem parse?_empty : ContactPage.parse? "" = none := by decide

/-- A success arrives as it was sent. -/
theorem receive_of_success {status : Nat} (success : Http.Status.isSuccess status = true)
    (location : Option String) (body : String) :
    Http.receive status location body =
      .ok ⟨status, location, if status = 204 then "" else body⟩ := by
  obtain ⟨least, most⟩ := Http.Status.isSuccess_iff.mp success
  have sendable : Http.Status.isSendable status = true :=
    Http.Status.isSendable_iff.mpr ⟨by omega, by omega⟩
  have final : ¬Http.Status.isInterim status = true :=
    fun interim => by have range := Http.Status.isInterim_iff.mp interim; omega
  rw [Http.receive, sendable, if_neg (by decide), if_neg final]
  by_cases empty : status = 204
  · rw [empty]
    rfl
  · rw [if_neg empty, if_pos (Http.Status.hasBody_iff.mpr (by omega))]

/-- A success is read as the page that it holds, and without one it is an unexpected answer. -/
theorem read_of_success {status : Nat} (success : Http.Status.isSuccess status = true)
    (location : Option String) (body : String) :
    read (.answer status location body) =
      match (Http.Reply.answer status location body).page? with
      | some page => .ok page
      | none => .error (.unexpected .page) := by
  have noError : ∀ shown, statusError? status shown = none := by
    intro shown
    simp [statusError?, success]
  rw [read, Http.Reply.outcome, receive_of_success success]
  simp only [readPage, noError, Http.Reply.page?]
  obtain ⟨least, most⟩ := Http.Status.isSuccess_iff.mp success
  by_cases empty : status = 204
  · simp [empty, parse?_empty]
  · cases parsed : ContactPage.parse? body <;> simp [empty, least, most, parsed]

/-- What is no success is read as an error, which is transient exactly for some codes. -/
theorem readPage_of_failure {status : Nat} (failure : Http.Status.isSuccess status = false)
    (location : Option String) (body : String) :
    ∃ error, readPage ⟨status, location, body⟩ = .error error ∧
      (error.isTransient = true ↔ status = 429 ∨ 500 ≤ status ∧ status < 600) := by
  rw [readPage, statusError?, ← Http.Status.isServerError_iff]
  simp only [failure, Bool.false_eq_true, ↓reduceIte]
  by_cases refused : status = 401 ∨ status = 403
  · rw [if_pos refused]
    refine ⟨_, rfl, ?_⟩
    rw [Http.Status.isServerError_iff]
    refine iff_of_false Bool.false_ne_true ?_
    omega
  · rw [if_neg refused]
    by_cases unavailable : status = 429 ∨ Http.Status.isServerError status = true
    · rw [if_pos unavailable]
      exact ⟨_, rfl, iff_of_true rfl unavailable⟩
    · rw [if_neg unavailable]
      exact ⟨_, rfl, iff_of_false Bool.false_ne_true unavailable⟩

theorem isTransient_answer_iff {status : Nat} {location : Option String} {body : String} :
    (Http.Reply.answer status location body).IsTransient ↔
      status = 429 ∨ 500 ≤ status ∧ status < 600 := Iff.rfl

/-- What is no success fails, transiently or not. -/
theorem read_of_failure {status : Nat} (failure : Http.Status.isSuccess status = false)
    (location : Option String) (body : String) :
    ∃ error, read (.answer status location body) = .error error ∧
      (error.isTransient = true ↔ (Http.Reply.answer status location body).IsTransient) := by
  rw [read, Http.Reply.outcome, Http.receive, isTransient_answer_iff]
  by_cases sendable : Http.Status.isSendable status = true
  · rw [sendable, if_neg (by decide)]
    by_cases interim : Http.Status.isInterim status = true
    · rw [if_pos interim]
      refine ⟨_, rfl, iff_of_false Bool.false_ne_true ?_⟩
      have range := Http.Status.isInterim_iff.mp interim
      omega
    · rw [if_neg interim]
      exact readPage_of_failure failure location _
  · rw [if_pos (by simpa using sendable)]
    refine ⟨_, rfl, iff_of_false Bool.false_ne_true ?_⟩
    have range := mt Http.Status.isSendable_iff.mpr sendable
    omega

/-- A reply is read as a page exactly when it holds that page. -/
theorem read_eq_ok_iff {reply : Http.Reply} : read reply = .ok page ↔ reply.page? = some page := by
  cases reply with
  | refusal => exact iff_of_false (fun same => nomatch same) (fun same => nomatch same)
  | close => exact iff_of_false (fun same => nomatch same) (fun same => nomatch same)
  | silence => exact iff_of_false (fun same => nomatch same) (fun same => nomatch same)
  | answer status location body =>
    cases success : Http.Status.isSuccess status with
    | true =>
      rw [read_of_success success]
      cases (Http.Reply.answer status location body).page? <;> simp
    | false =>
      obtain ⟨error, failed, _⟩ := read_of_failure success location body
      have range := mt Http.Status.isSuccess_iff.mpr (Bool.eq_false_iff.mp success)
      rw [failed, Http.Reply.page?, if_neg fun inside => range ⟨inside.1, inside.2.1⟩]
      exact iff_of_false (fun same => nomatch same) (fun same => nomatch same)

/-- A reply is worth another attempt exactly when it is transient. -/
theorem read_transient_iff {reply : Http.Reply} :
    (∃ error, read reply = .error error ∧ error.isTransient = true) ↔ reply.IsTransient := by
  cases reply with
  | refusal => exact iff_of_true ⟨_, rfl, rfl⟩ trivial
  | silence => exact iff_of_true ⟨_, rfl, rfl⟩ trivial
  | close =>
    refine iff_of_false ?_ id
    rintro ⟨error, failed, transient⟩
    cases failed
    cases transient
  | answer status location body =>
    rw [isTransient_answer_iff]
    cases success : Http.Status.isSuccess status with
    | true =>
      have range := Http.Status.isSuccess_iff.mp success
      refine iff_of_false ?_ (by omega)
      rintro ⟨error, failed, transient⟩
      rw [read_of_success success] at failed
      split at failed
      · cases failed
      · cases failed
        cases transient
    | false =>
      obtain ⟨error, failed, transient⟩ := read_of_failure success location body
      rw [failed, ← @isTransient_answer_iff status location body, ← transient]
      simp

/-- What an attempt comes to. -/
def result (network : Network) (journey : Journey) : Except ContactsError ContactPage :=
  match journey.outcome network redirectLimit with
  | .ok response => readPage response
  | .error fault => .error (.transfer fault)

/-- A journey that is not sent on from its last hop comes to what that hop gets. -/
theorem result_of_final (final : journey.last.next? network = none) :
    result network journey = read (journey.last.reply network) := by
  rw [result, Journey.outcome, final, read]

/-- An answer that sends the client on holds no page and is no transient failure, and who is sent
on too often or to elsewhere than the web has failed for good. -/
theorem result_of_sent {later : Hop} (sent : journey.last.next? network = some later) :
    (journey.last.reply network).page? = none ∧ ¬(journey.last.reply network).IsTransient ∧
      ∃ error, result network journey = .error error ∧ error.isTransient = false := by
  obtain ⟨status, location, body, url, replied, redirects, _⟩ := Hop.exists_answer_of_next? sent
  obtain ⟨least, most⟩ := Http.Status.range_of_isRedirect redirects
  rw [replied, isTransient_answer_iff, Http.Reply.page?, result, Journey.outcome, sent]
  refine ⟨if_neg fun success => ?_, fun transient => ?_, _, rfl, ?_⟩
  · exact absurd (Nat.lt_of_lt_of_le success.2.1 least) (Nat.lt_irrefl _)
  · rcases transient with rfl | ⟨server, _⟩
    · exact absurd most (by decide)
    · exact absurd (Nat.lt_of_lt_of_le most (Nat.le_trans (by decide) server)) (Nat.lt_irrefl _)
  · split <;> rfl

/-- An attempt gets the page that the answer to its last hop holds. -/
theorem result_eq_ok_iff :
    result network journey = .ok page ↔ (journey.last.reply network).page? = some page := by
  cases sent : journey.last.next? network with
  | none => rw [result_of_final sent, read_eq_ok_iff]
  | some later =>
    obtain ⟨noPage, _, error, failed, _⟩ := result_of_sent sent
    rw [noPage, failed]
    exact iff_of_false (fun same => nomatch same) (fun same => nomatch same)

/-- An attempt is worth another one exactly when what its last hop gets is transient. -/
theorem result_transient_iff :
    (∃ error, result network journey = .error error ∧ error.isTransient = true) ↔
      (journey.last.reply network).IsTransient := by
  cases sent : journey.last.next? network with
  | none => rw [result_of_final sent, read_transient_iff]
  | some later =>
    obtain ⟨_, lasting, error, failed, final⟩ := result_of_sent sent
    refine iff_of_false ?_ lasting
    rintro ⟨other, same, transient⟩
    cases failed.symm.trans same
    cases transient.symm.trans final

/-- A page that can be asked for is attempted along a journey. -/
theorem attempt_of_isAttempt (askable : Askable url)
    (made : IsAttempt network url trace.length journey) :
    attempt network url trace = (result network journey, trace ++ journey.trace network) := by
  rw [attempt, network.exchange_of_isMade askable made, result]
  cases journey.outcome network redirectLimit <;> rfl

/-- A page that cannot be asked for is not. -/
theorem attempt_of_not_askable (network : Network) (unaskable : ¬Askable url) (trace : Trace) :
    attempt network url trace = (.error (.transfer (Http.obstacle url)), trace) := by
  rw [attempt, network.exchange_of_not_askable unaskable]

theorem exists_isAttempt (network : Network) (url : Url) (first : Nat) :
    ∃ journey, IsAttempt network url first journey := Journey.exists_isMade _ _ _

/-- After an attempt as many hops are made as its last hop has before it and one more. -/
theorem IsAttempt.length_append (made : IsAttempt network url trace.length journey) :
    (trace ++ journey.trace network).length = journey.last.number + 1 := by
  rw [List.length_append, journey.length_trace, made.number_last, Nat.add_assoc]

/-! ## A page -/

/-- Without attempts no page is obtained. -/
theorem not_obtains_zero {first next : Nat} : ¬Obtains network url page 0 first next :=
  fun obtained => nomatch obtained

/-- Whether a page is obtained is decided by the first attempt and by those after it. -/
theorem obtains_succ_iff {first more next : Nat} (attempt : IsAttempt network url first journey) :
    Obtains network url page (more + 1) first next ↔
      (journey.last.reply network).page? = some page ∧ next = journey.last.number + 1 ∨
        (journey.last.reply network).IsTransient ∧
          Obtains network url page more (journey.last.number + 1) next := by
  constructor
  · intro obtained
    cases obtained with
    | now other got =>
      cases attempt.unique other
      exact .inl ⟨got, rfl⟩
    | later other transient again =>
      cases attempt.unique other
      exact .inr ⟨transient, again⟩
  · rintro (⟨got, rfl⟩ | ⟨transient, again⟩)
    · exact .now attempt got
    · exact .later attempt transient again

theorem attempts_succ (network : Network) (url : Url) (more : Nat) (trace : Trace) :
    attempts network url (more + 1) trace =
      match attempt network url trace with
      | (.ok page, extended) => (.ok page, extended)
      | (.error error, extended) =>
        if error.isTransient then attempts network url more extended
        else (.error error, extended) := rfl

/-- So many attempts get a page exactly when it is obtained, and end where it says. -/
theorem attempts_eq_ok_iff {more next : Nat} (askable : Askable url) :
    (∃ after, attempts network url more trace = (.ok page, after) ∧ after.length = next) ↔
      Obtains network url page (more + 1) trace.length next := by
  obtain ⟨journey, made⟩ := exists_isAttempt network url trace.length
  induction more generalizing trace journey with
  | zero =>
    rw [obtains_succ_iff made, attempts, attempt_of_isAttempt askable made, ← result_eq_ok_iff]
    simp only [Prod.mk.injEq, and_assoc, exists_and_left, exists_eq_left', made.length_append,
      not_obtains_zero, and_false, or_false, @eq_comm _ next]
  | succ more inductionHypothesis =>
    rw [obtains_succ_iff made, attempts_succ, attempt_of_isAttempt askable made,
      ← result_eq_ok_iff, ← result_transient_iff]
    cases result network journey with
    | ok found =>
      simp [and_assoc, @eq_comm _ next, made.length_append]
    | error error =>
      cases transient : error.isTransient with
      | false => simp [transient]
      | true =>
        obtain ⟨further, alsoMade⟩ :=
          exists_isAttempt network url (trace ++ journey.trace network).length
        have again := inductionHypothesis further alsoMade
        rw [made.length_append] at again
        simp [transient, again]

/-- No attempt is repeated for a page that cannot be asked for. -/
theorem attempts_of_not_askable (network : Network) (unaskable : ¬Askable url) (more : Nat)
    (trace : Trace) :
    attempts network url more trace = (.error (.transfer (Http.obstacle url)), trace) := by
  have failed := attempt_of_not_askable network unaskable trace
  cases more with
  | zero => exact failed
  | succ more =>
    have lasting : (ContactsError.transfer (Http.obstacle url)).isTransient = false := by
      rw [Http.obstacle]
      split <;> rfl
    rw [attempts_succ, failed]
    simp only [lasting, Bool.false_eq_true, ↓reduceIte]

/-- A page is got exactly when it is delivered. -/
theorem delivers_iff {next : Nat} :
    (∃ after, attempts network url furtherAttempts trace = (.ok page, after) ∧
        after.length = next) ↔ Delivers network url trace.length page next := by
  by_cases askable : Askable url
  · rw [attempts_eq_ok_iff askable]
    exact (and_iff_right askable).symm
  · have failed := attempts_of_not_askable network askable furtherAttempts trace
    refine iff_of_false ?_ fun delivered => askable delivered.1
    rintro ⟨after, got, _⟩
    cases failed.symm.trans got

/-! ## All pages -/

/-- A chain has a page. -/
theorem Chain.ne_nil {first : Nat} {pages : List ContactPage}
    (chain : Chain network url first pages) : pages ≠ [] := by
  cases chain with
  | last => exact List.cons_ne_nil _ _
  | link => exact List.cons_ne_nil _ _

/-- A chain starts with the page that is delivered first. -/
theorem chain_iff {first next : Nat} {pages : List ContactPage}
    (unique : ∀ other later, Delivers network url first other later → other = page ∧ later = next)
    (delivered : Delivers network url first page next) :
    Chain network url first pages ↔
      page.next = none ∧ pages = [page] ∨
        ∃ link linked rest, page.next = some link ∧ Url.parse? link = some linked ∧
          Chain network linked next rest ∧ pages = page :: rest := by
  constructor
  · intro chain
    cases chain with
    | last other final =>
      obtain ⟨rfl, rfl⟩ := unique _ _ other
      exact .inl ⟨final, rfl⟩
    | link other named parsed rest =>
      obtain ⟨rfl, rfl⟩ := unique _ _ other
      exact .inr ⟨_, _, _, named, parsed, rest, rfl⟩
  · rintro (⟨final, rfl⟩ | ⟨link, linked, rest, named, parsed, further, rfl⟩)
    · exact .last delivered final
    · exact .link delivered named parsed further

theorem follow_succ (client : GraphClient) (network : Network) (left : Nat) (url : Url)
    (found : List Contact) (trace : Trace) :
    follow client network (left + 1) url found trace =
      match attempts network url furtherAttempts trace with
      | (.error error, extended) => (.error error, extended)
      | (.ok page, extended) =>
        match page.next with
        | none => (.ok (found ++ page.contacts), extended)
        | some link =>
          match Url.parse? link with
          | none => (.error (.unexpected .pagingLink), extended)
          | some next => follow client network left next (found ++ page.contacts) extended := rfl

/-- The pages from a URL on are followed to their end exactly when they are a chain that is not too
long. -/
theorem follow_eq_ok_iff {left : Nat} {found contacts : List Contact} :
    (∃ after, follow client network left url found trace = (.ok contacts, after)) ↔
      ∃ pages, Chain network url trace.length pages ∧ pages.length ≤ left ∧
        contacts = found ++ pages.flatMap (·.contacts) := by
  induction left generalizing url found trace with
  | zero =>
    refine iff_of_false ?_ ?_
    · rintro ⟨after, followed⟩
      cases followed
    · rintro ⟨pages, chain, short, _⟩
      exact chain.ne_nil (List.length_eq_zero_iff.mp (Nat.le_zero.mp short))
  | succ left inductionHypothesis =>
    rw [follow_succ]
    cases run : attempts network url furtherAttempts trace with
    | mk outcome extended =>
      have gets : ∀ other later, Delivers network url trace.length other later →
          outcome = .ok other ∧ later = extended.length := by
        intro other later delivered
        obtain ⟨after, got, rfl⟩ := delivers_iff.mpr delivered
        cases run.symm.trans got
        exact ⟨rfl, rfl⟩
      cases outcome with
      | error error =>
        refine iff_of_false ?_ ?_
        · rintro ⟨after, followed⟩
          cases followed
        · rintro ⟨pages, chain, _⟩
          cases chain with
          | last delivered => cases (gets _ _ delivered).1
          | link delivered => cases (gets _ _ delivered).1
      | ok page =>
        have delivered : Delivers network url trace.length page extended.length :=
          delivers_iff.mp ⟨extended, run, rfl⟩
        have unique : ∀ other later, Delivers network url trace.length other later →
            other = page ∧ later = extended.length := by
          intro other later also
          obtain ⟨same, last⟩ := gets other later also
          exact ⟨(Except.ok.inj same).symm, last⟩
        simp only [chain_iff unique delivered]
        cases named : page.next with
        | none => simp [eq_comm]
        | some link =>
          cases parsed : Url.parse? link with
          | none => simp [parsed]
          | some next =>
            dsimp only
            rw [parsed]
            refine inductionHypothesis.trans ?_
            constructor
            · rintro ⟨rest, further, short, rfl⟩
              refine ⟨page :: rest, .inr ⟨link, next, rest, rfl, parsed, further, rfl⟩,
                Nat.succ_le_succ short, ?_⟩
              rw [List.flatMap_cons, List.append_assoc]
            · rintro ⟨pages, ⟨final, _⟩ | ⟨_, _, rest, same, alsoParsed, further, rfl⟩, short, rfl⟩
              · cases final
              · cases same
                cases parsed.symm.trans alsoParsed
                refine ⟨rest, further, Nat.le_of_succ_le_succ short, ?_⟩
                rw [List.flatMap_cons, List.append_assoc]

/-- A fetch answers with contacts exactly when they are provided. -/
theorem fetch_eq_ok_iff {token : String} {contacts : List Contact} :
    (client.fetch network token trace).1 = .ok contacts ↔
      client.Provides network token trace.length contacts := by
  unfold fetch Provides
  cases client.firstPage? token with
  | none => simp
  | some url =>
    have answers : (follow client network client.maxPages url [] trace).1 = .ok contacts ↔
        ∃ after, follow client network client.maxPages url [] trace = (.ok contacts, after) := by
      constructor
      · intro followed
        exact ⟨_, Prod.ext followed rfl⟩
      · rintro ⟨after, followed⟩
        rw [followed]
    refine answers.trans (follow_eq_ok_iff.trans ?_)
    simp

/-- **Contacts are fetched completely or not at all.** A fetch answers with contacts exactly when
they are those of all pages of a chain that is not too long, and fails otherwise. An import through
the client then changes nothing and tells nobody. -/
theorem contacts_are_fetched_whole (client : GraphClient) (network : Network) (token : String) :
    (∀ (trace : Trace) (contacts : List Contact),
      (client.fetch network token trace).1 = .ok contacts ↔
        client.Provides network token trace.length contacts) ∧
      ((∀ contacts, ¬client.Provides network token 0 contacts) →
        ∃ error, client.source network token = .error error ∧
          ∀ (State : Type) [Sender State] (service : Service State) (terms : Terms)
            (occasion : Occasion) (caller : Caller) (externalId : String),
            service.perform terms occasion caller
                (.importContacts externalId (client.source network token)) =
              (.error (.contacts error), service) ∧
            Session.answer terms occasion (client.source network) caller
                (.importFriends externalId token) service = ([], service)) := by
  refine ⟨fun _ _ => fetch_eq_ok_iff, fun nothing => ?_⟩
  cases fetched : client.source network token with
  | ok contacts => exact absurd (fetch_eq_ok_iff.mp fetched) (nothing contacts)
  | error error =>
    refine ⟨error, rfl, fun State _ service terms occasion caller externalId => ?_⟩
    have performed : service.perform terms occasion caller
        (.importContacts externalId (.error error)) = (.error (.contacts error), service) := rfl
    refine ⟨performed, ?_⟩
    simp only [Session.answer, Session.operation, Session.failedOperation?, fetched, performed]

/-- A network that refuses the first hop and sends the second one on, and then has two pages. -/
def twoPages : Network where
  reply _ hop :=
    match hop with
    | 0 => .refusal
    | 1 => .answer 302 (some "http://[::1]/1") ""
    | 2 => .answer 200 none "[[[\"a\"]],[\"http://[::1]/2\"]]"
    | 3 => .answer 200 none "[[[\"b\"]],null]"
    | _ => .close
  locate _ location := Url.parse? location

/-- A client that follows so many pages. -/
def following (maxPages : Nat) : GraphClient := ⟨"http://[::1]", 2, maxPages⟩

/-- Who follows two pages gets the contacts of both, and who follows one gets none at all. -/
theorem contacts_are_fetched_whole_twoPages :
    (following 2).Provides twoPages "t" 0 [⟨"a", ""⟩, ⟨"b", ""⟩] ∧
      (∀ contacts, ¬(following 1).Provides twoPages "t" 0 contacts) ∧
      ∃ error, (following 1).source twoPages "t" = .error error ∧
        (Pair.strangers.perform ⟨Pair.budget, 7⟩ ⟨5, fun _ => ""⟩ ⟨Pair.ada, "ada"⟩
            (.importContacts "ada" ((following 1).source twoPages "t"))).2 = Pair.strangers := by
  have both : ((following 2).fetch twoPages "t" []).1.toOption = some [⟨"a", ""⟩, ⟨"b", ""⟩] := by
    decide +kernel
  have none : ((following 1).fetch twoPages "t" []).1.toOption = none := by decide +kernel
  obtain ⟨provided, _⟩ := contacts_are_fetched_whole (following 2) twoPages "t"
  obtain ⟨missing, silent⟩ := contacts_are_fetched_whole (following 1) twoPages "t"
  have nothing : ∀ contacts, ¬(following 1).Provides twoPages "t" 0 contacts := by
    intro contacts provides
    rw [(missing [] contacts).mpr provides] at none
    cases none
  obtain ⟨error, failed, unchanged⟩ := silent nothing
  refine ⟨(provided [] _).mp ?_, nothing, error, failed, ?_⟩
  · cases fetched : ((following 2).fetch twoPages "t" []).1 with
    | error error =>
      rw [fetched] at both
      cases both
    | ok contacts =>
      rw [fetched] at both
      exact congrArg Except.ok (Option.some.inj both)
  · exact congrArg Prod.snd (unchanged Recorder Pair.strangers ⟨Pair.budget, 7⟩ ⟨5, fun _ => ""⟩
      ⟨Pair.ada, "ada"⟩ "ada").1

end GraphClient

end FriendGraph
