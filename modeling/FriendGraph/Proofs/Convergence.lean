import Mathlib.Data.Sym.Card
import FriendGraph.Proofs.Announcement
import FriendGraph.Proofs.Refinement

/-! # Additions converge

Let users do nothing but add each other. Then a pair of users is related as soon as one of the two
has added the other one, whoever it was, and what comes of a run depends only on which pairs have
been named, not on the order, the repetitions, the directions or the times. The bonds of such a run
are those `Bonds.among` the pairs: one addition puts its pair among them and is told that it is new
exactly when it was not among them before (`Bonds.serve_invitation`).
-/

namespace FriendGraph

open EdgeState (connected)

/-- A registered user is added by somebody else. -/
structure Invitation (directory : Directory) where
  terms : Terms
  occasion : Occasion
  caller : Caller
  target : UserId
  different : caller.id ≠ target
  registered : (directory.withId? target.bytes).isSome

namespace Invitation

variable {directory : Directory}

/-- The call that makes the invitation. -/
def call (invitation : Invitation directory) : Call where
  terms := invitation.terms
  occasion := invitation.occasion
  caller := invitation.caller
  operation := .add invitation.target

/-- The inviter and the target, in either order. -/
def pair (invitation : Invitation directory) : Sym2 UserId :=
  s(invitation.caller.id, invitation.target)

/-- The pairs of users that occur in a list of invitations. -/
def pairs (invitations : List (Invitation directory)) : Finset (Sym2 UserId) :=
  (invitations.map pair).toFinset

/-- A pair of the invitations is that of one of them. -/
theorem mem_pairs {invitations : List (Invitation directory)} {pair : Sym2 UserId} :
    pair ∈ pairs invitations ↔ ∃ invitation ∈ invitations, invitation.pair = pair := by
  rw [pairs, List.mem_toFinset, List.mem_map]

theorem pairs_nil : pairs ([] : List (Invitation directory)) = ∅ := rfl

theorem pairs_cons (invitation : Invitation directory) (rest : List (Invitation directory)) :
    pairs (invitation :: rest) = insert invitation.pair (pairs rest) := by
  rw [pairs, List.map_cons, List.toFinset_cons, pairs]

/-- The answers to invitations when some pairs are friends already. -/
def answers (known : Finset (Sym2 UserId)) :
    List (Invitation directory) → List (Except RelationshipError Outcome)
  | [] => []
  | invitation :: rest =>
    .ok (invitation.call.added invitation.target (invitation.pair ∉ known)) ::
      answers (insert invitation.pair known) rest

end Invitation

/-- The users with whom a user makes one of the pairs. -/
def partners (user : UserId) (pairs : Finset (Sym2 UserId)) : Finset UserId :=
  (pairs.biUnion Sym2.toFinset).filter fun peer => s(user, peer) ∈ pairs

/-- Partners are those who make a pair with the user. -/
theorem mem_partners {user peer : UserId} {pairs : Finset (Sym2 UserId)} :
    peer ∈ partners user pairs ↔ s(user, peer) ∈ pairs := by
  rw [partners, Finset.mem_filter, and_iff_right_iff_imp]
  intro member
  exact Finset.mem_biUnion.mpr ⟨_, member, Sym2.mem_toFinset.mpr (Sym2.mem_mk_right _ _)⟩

/-- The edges are those between the two users of each pair, all of them connected, and the counts
are the numbers of partners. -/
structure Database.Befriended (pairs : Finset (Sym2 UserId)) (database : Database) : Prop where
  edges : ∀ source destination code,
    (database.edge? source destination).map (·.code) = some code ↔
      code = connected.code ∧ ∃ one other : UserId,
        s(one, other) ∈ pairs ∧ source = one.bytes ∧ destination = other.bytes
  counts : ∀ user : UserId, database.tally user.bytes = (partners user pairs).card

namespace Database.Befriended

variable {first second : Database} {pairs : Finset (Sym2 UserId)}

/-- Between the two of a pair there is a connected edge. -/
theorem code_of_mem (befriended : first.Befriended pairs) {one other : UserId}
    (member : s(one, other) ∈ pairs) :
    (first.edge? one.bytes other.bytes).map (·.code) = some connected.code :=
  (befriended.edges _ _ _).mpr ⟨rfl, one, other, member, rfl, rfl⟩

/-- The pairs tell which edges there are. -/
theorem code_eq (befriended : first.Befriended pairs) (befriendedToo : second.Befriended pairs)
    (source destination : StoredId) :
    (first.edge? source destination).map (·.code) =
      (second.edge? source destination).map (·.code) := by
  apply Option.ext
  intro code
  rw [befriended.edges, befriendedToo.edges]

/-- Counters agree where the same pairs are befriended. -/
theorem tally_eq (befriended : first.Befriended pairs) (befriendedToo : second.Befriended pairs)
    (user : UserId) : first.tally user.bytes = second.tally user.bytes := by
  rw [befriended.counts, befriendedToo.counts]

end Database.Befriended

/-! ## Bonds of friends only -/

namespace Bonds

variable {database : Database} {directory : Directory} {pairs : Finset (Sym2 UserId)}
  {pair : Sym2 UserId} {one other : UserId}

/-- Some pairs are friends, and all others are unrelated. -/
def among (pairs : Finset (Sym2 UserId)) : Bonds := fun pair =>
  if pair ∈ pairs then .friends else .unrelated

/-- Who is a pair are friends. -/
theorem among_of_mem (member : pair ∈ pairs) : among pairs pair = .friends := if_pos member

/-- Who is no pair is unrelated. -/
theorem among_of_notMem (absent : pair ∉ pairs) : among pairs pair = .unrelated := if_neg absent

/-- No pairs describe a database without edges. -/
theorem describe_among_empty (empty : database.edgeRows = []) : (among ∅).Describe database := by
  have nobody : among ∅ = strangers := by
    funext pair
    exact among_of_notMem (Finset.notMem_empty pair)
  exact nobody ▸ describe_strangers empty

/-- Making friends of a pair adds it to the pairs. -/
theorem change_among (pair : Sym2 UserId) (pairs : Finset (Sym2 UserId)) :
    (among pairs).change pair .friends = among (insert pair pairs) := by
  funext other
  by_cases same : other = pair
  · subst same
    rw [among_of_mem (Finset.mem_insert_self other pairs)]
    exact Function.update_self _ _ _
  · have elsewhere : (among pairs).change pair .friends other = among pairs other :=
      Function.update_of_ne same _ _
    rw [elsewhere]
    simp only [among, Finset.mem_insert, same, false_or]

/-- In the eyes of either, the two of a pair are connected, and other two are not. -/
theorem state?_among : (among pairs s(one, other)).state? one =
    if s(one, other) ∈ pairs then some connected else none := by
  by_cases member : s(one, other) ∈ pairs
  · rw [among_of_mem member, if_pos member]
    rfl
  · rw [among_of_notMem member, if_neg member]
    rfl

/-- One sees another exactly when they are a pair. -/
theorem sees_among : (among pairs).Sees one other ↔ s(one, other) ∈ pairs := by
  rw [Sees, state?_among]
  split <;> simp [*]

/-- A database that pairs describe and in which counters are right has befriended just these pairs.
-/
theorem Describe.befriended (describe : (among pairs).Describe database)
    (complete : database.Complete directory) (right : ∀ user, database.drift user = 0) :
    database.Befriended pairs where
  edges := by
    intro source destination code
    constructor
    · intro coded
      obtain ⟨row, stored, _⟩ := Option.map_eq_some_iff.mp coded
      obtain ⟨one, other, rfl, rfl⟩ :=
        describe.named source destination (Option.isSome_of_eq_some stored)
      rw [describe.edge?, state?_among] at coded
      by_cases member : s(one, other) ∈ pairs
      · rw [if_pos member] at coded
        exact ⟨(Option.some.inj coded).symm, one, other, member, rfl, rfl⟩
      · rw [if_neg member] at coded
        cases coded
    · intro ⟨isConnected, one, other, member, isSource, isDestination⟩
      rw [isConnected, isSource, isDestination, describe.edge?, state?_among, if_pos member]
      rfl
  counts := by
    intro user
    obtain ⟨_, present⟩ := Option.isSome_iff_exists.mp complete.edges
    obtain ⟨seen, isSeen, outgoing⟩ := outgoing_eq_card describe present user
    have isPartner : seen = partners user pairs := by
      ext peer
      rw [isSeen, sees_among, mem_partners]
    have still := right user.bytes
    rw [Database.drift, outgoing, isPartner] at still
    omega

/-- An addition puts its pair among the friends, and is new when it was not there before. -/
theorem add_among (invitation : Invitation directory) (pairs : Finset (Sym2 UserId)) :
    (among pairs).add directory invitation.caller invitation.target =
      (.ok (decide (invitation.pair ∉ pairs)), among (insert invitation.pair pairs)) := by
  rw [add, if_neg invitation.different.symm, connect, if_pos invitation.registered]
  by_cases known : invitation.pair ∈ pairs
  · have bond : among pairs s(invitation.caller.id, invitation.target) = .friends :=
      among_of_mem known
    rw [bond, decide_eq_false (not_not_intro known), Finset.insert_eq_of_mem known]
  · have bond : among pairs s(invitation.caller.id, invitation.target) = .unrelated :=
      among_of_notMem known
    rw [bond, decide_eq_true known, ← change_among]
    rfl

variable {State : Type} [Sender State] {service : Service State}

/-- An invitation succeeds, says whether the pair is new, and adds the pair. -/
theorem serve_invitation (complete : service.database.Complete directory)
    (describe : (among pairs).Describe service.database) (invitation : Invitation directory) :
    (service.serve invitation.call).1 =
        .ok (invitation.call.added invitation.target (invitation.pair ∉ pairs)) ∧
      (among (insert invitation.pair pairs)).Describe
        (service.serve invitation.call).2.database := by
  have simulates : Simulates (Relationship.add invitation.terms.budget invitation.caller
      invitation.target invitation.occasion.time) id service.database
      ((among pairs).add directory invitation.caller invitation.target) :=
    simulates_add complete describe
  rw [add_among] at simulates
  obtain ⟨answer, describes⟩ := simulates
  have act : invitation.call.act = invitation.call.added invitation.target <$>
      Relationship.add invitation.terms.budget invitation.caller invitation.target
        invitation.occasion.time := rfl
  rw [Except.map_id, id_eq] at answer
  rw [Service.serve_eq, act, Action.map_run, answer]
  exact ⟨rfl, describes⟩

end Bonds

/-! ## Runs of additions -/

namespace Service

variable {State : Type} [Sender State] {service : Service State} {directory : Directory}
  {known : Finset (Sym2 UserId)}

/-- The outcomes of calls that are served one after the other. -/
def outcomes : List Call → Service State → List (Except RelationshipError Outcome)
  | [], _ => []
  | call :: rest, service => (service.serve call).1 :: outcomes rest (service.serve call).2

/-- Invitations are answered one by one, and put their pairs among the friends. -/
theorem serve_invitations (invitations : List (Invitation directory))
    (complete : service.database.Complete directory)
    (describe : (Bonds.among known).Describe service.database) :
    let reached := service.serveAll (invitations.map Invitation.call)
    service.outcomes (invitations.map Invitation.call) = Invitation.answers known invitations ∧
      reached.database.Complete directory ∧
      (Bonds.among (known ∪ Invitation.pairs invitations)).Describe reached.database := by
  induction invitations generalizing service known with
  | nil => exact ⟨rfl, complete, by rwa [Invitation.pairs_nil, Finset.union_empty]⟩
  | cons invitation rest inductionHypothesis =>
    obtain ⟨answer, describes⟩ := Bonds.serve_invitation complete describe invitation
    obtain ⟨answers, stillComplete, further⟩ :=
      inductionHypothesis (complete_serve complete invitation.call) describes
    refine ⟨?_, stillComplete, ?_⟩
    · rw [List.map_cons, outcomes, answer, answers, Invitation.answers]
    · rw [Invitation.pairs_cons, Finset.union_insert, ← Finset.insert_union]
      exact further

end Service

/-! ## Counting -/

/-- Whether an outcome tells that two users are newly connected. -/
def isCreation : Except RelationshipError Outcome → Bool
  | .ok (.added _ isNew _ _) => isNew
  | .ok (.imported _ _ _) | .ok .done | .ok (.friends _) | .error _ => false

/-- The sender and the recipient. -/
def Notification.parties (notification : Notification) : Sym2 UserId :=
  s(notification.sender, notification.recipient)

namespace Invitation

variable {directory : Directory} {known : Finset (Sym2 UserId)}

/-- An invitation tells its pair exactly when that is new. -/
theorem parties_told (invitation : Invitation directory) (isNew : Bool) :
    (told (.ok (invitation.call.added invitation.target isNew))).map Notification.parties =
      if isNew then [invitation.pair] else [] := by
  cases isNew <;> rfl

/-- The pairs that are still to come after an invitation. -/
theorem pairs_cons_sdiff (invitation : Invitation directory)
    (rest : List (Invitation directory)) :
    pairs (invitation :: rest) \ known =
      (if invitation.pair ∈ known then ∅ else {invitation.pair}) ∪
        pairs rest \ insert invitation.pair known := by
  rw [pairs_cons]
  by_cases old : invitation.pair ∈ known
  · rw [if_pos old, Finset.empty_union, Finset.insert_eq_of_mem old,
      Finset.insert_sdiff_of_mem _ old]
  · rw [if_neg old]
    ext pair
    simp only [Finset.mem_sdiff, Finset.mem_insert, Finset.mem_union, Finset.mem_singleton]
    grind

/-- Of every pair that was not known there is one notification. -/
theorem count_parties_answers (pair : Sym2 UserId) (invitations : List (Invitation directory)) :
    (((answers known invitations).flatMap told).map Notification.parties).count pair =
      if pair ∈ pairs invitations \ known then 1 else 0 := by
  induction invitations generalizing known with
  | nil =>
    rw [pairs_nil, Finset.empty_sdiff, if_neg (Finset.notMem_empty pair)]
    rfl
  | cons invitation rest inductionHypothesis =>
    rw [answers, List.flatMap_cons, List.map_append, List.count_append, parties_told,
      inductionHypothesis, pairs_cons_sdiff]
    by_cases old : invitation.pair ∈ known
    · simp [old]
    · by_cases same : pair = invitation.pair
      · subst same
        simp [old]
      · simp [old, same, Ne.symm same]

/-- As many friends are made as there are pairs that were not known. -/
theorem countP_answers (invitations : List (Invitation directory)) :
    (answers known invitations).countP isCreation = (pairs invitations \ known).card := by
  induction invitations generalizing known with
  | nil =>
    rw [pairs_nil, Finset.empty_sdiff, Finset.card_empty]
    rfl
  | cons invitation rest inductionHypothesis =>
    have made : ∀ isNew, isCreation (.ok (invitation.call.added invitation.target isNew)) = isNew :=
      fun _ => rfl
    rw [answers, List.countP_cons, made, inductionHypothesis, pairs_cons_sdiff]
    by_cases old : invitation.pair ∈ known
    · simp [old]
    · simp [old, Finset.card_insert_of_notMem]

end Invitation

/-! ## The pairs of a company -/

/-- All pairs of different users of a company. -/
def Company (company : Finset UserId) (pairs : Finset (Sym2 UserId)) : Prop :=
  ∀ one other, s(one, other) ∈ pairs ↔ one ∈ company ∧ other ∈ company ∧ one ≠ other

namespace Company

variable {company : Finset UserId} {pairs : Finset (Sym2 UserId)} {user : UserId}

/-- In a company everybody has all others for partners. -/
theorem card_partners (complete : Company company pairs) (member : user ∈ company) :
    (partners user pairs).card = company.card - 1 := by
  have others : partners user pairs = company.erase user := by
    ext peer
    rw [mem_partners, complete, Finset.mem_erase, and_iff_right member, ne_comm, and_comm]
  rw [others, Finset.card_erase_of_mem member]

/-- A company of n users has n (n - 1) / 2 pairs. -/
theorem card_pairs (complete : Company company pairs) :
    pairs.card = company.card * (company.card - 1) / 2 := by
  have image : pairs = company.offDiag.image (Function.uncurry Sym2.mk) := by
    ext pair
    induction pair with
    | _ one other =>
      rw [complete, Finset.mem_image]
      constructor
      · intro different
        exact ⟨(one, other), Finset.mem_offDiag.mpr different, rfl⟩
      · intro ⟨ordered, different, same⟩
        exact (complete one other).mp (same ▸ (complete _ _).mpr (Finset.mem_offDiag.mp different))
  rw [image, Sym2.card_image_offDiag, Nat.choose_two_right]

end Company

namespace Service

variable {State : Type} [Sender State] {service : Service State} {directory : Directory}

/-- After invitations one more of them is answered by whether its pair has occurred. -/
theorem serve_after_invitations (complete : service.database.Complete directory)
    (unrelated : service.database.Unrelated) (earlier : List (Invitation directory))
    (next : Invitation directory) :
    ((service.serveAll (earlier.map Invitation.call)).serve next.call).1 =
      .ok (next.call.added next.target (∀ before ∈ earlier, before.pair ≠ next.pair)) := by
  obtain ⟨_, stillComplete, describe⟩ := serve_invitations earlier complete
    (Bonds.describe_among_empty unrelated.edges)
  rw [Finset.empty_union] at describe
  have isNew : next.pair ∉ Invitation.pairs earlier ↔
      ∀ before ∈ earlier, before.pair ≠ next.pair := by
    simp only [Invitation.mem_pairs, not_exists, not_and, ne_eq]
  rw [(Bonds.serve_invitation stillComplete describe next).1, decide_eq_decide.mpr isNew]

/-- After the invitations just their pairs are befriended. -/
theorem befriended_serveAll (complete : service.database.Complete directory)
    (unrelated : service.database.Unrelated) (invitations : List (Invitation directory)) :
    (service.serveAll (invitations.map Invitation.call)).database.Befriended
      (Invitation.pairs invitations) := by
  obtain ⟨_, stillComplete, describe⟩ := serve_invitations invitations complete
    (Bonds.describe_among_empty unrelated.edges)
  rw [Finset.empty_union] at describe
  exact describe.befriended stillComplete (drift_serveAll _ unrelated)

/-- Invitations are answered one by one by whether their pair came up before. -/
theorem outcomes_invitations (complete : service.database.Complete directory)
    (unrelated : service.database.Unrelated) (invitations : List (Invitation directory)) :
    service.outcomes (invitations.map Invitation.call) = Invitation.answers ∅ invitations :=
  (serve_invitations invitations complete (Bonds.describe_among_empty unrelated.edges)).1

/-- **Additions converge.** None fails, and one is new exactly when its pair has not occurred
before. What is there afterwards, and how many notifications there were, depends on the pairs alone:
two runs over the same pairs end alike, and a company whose members all add each other ends with
all of its pairs. -/
theorem additions_converge (service : Service State)
    (users : service.database.users = some directory)
    (edges : service.database.edges = some .empty)
    (counters : service.database.counters = some .empty)
    (invitations : List (Invitation directory)) :
    let calls := invitations.map Invitation.call
    let pairs := Invitation.pairs invitations
    let reached := service.serveAll calls
    (∀ earlier next later, invitations = earlier ++ next :: later →
      ((service.serveAll (earlier.map Invitation.call)).serve next.call).1 =
        .ok (next.call.added next.target (∀ before ∈ earlier, before.pair ≠ next.pair))) ∧
      reached.database.Befriended pairs ∧
      (∀ pair, (((service.outcomes calls).flatMap told).map Notification.parties).count pair =
        if pair ∈ pairs then 1 else 0) ∧
      (∀ others : List (Invitation directory), Invitation.pairs others = pairs →
        let reachedToo := service.serveAll (others.map Invitation.call)
        (∀ source destination, (reachedToo.database.edge? source destination).map (·.code) =
          (reached.database.edge? source destination).map (·.code)) ∧
        ∀ user : UserId,
          reachedToo.database.tally user.bytes = reached.database.tally user.bytes) ∧
      ∀ company, Company company pairs →
        (∀ one ∈ company, ∀ other ∈ company, one ≠ other →
          (reached.database.edge? one.bytes other.bytes).map (·.code) = some connected.code) ∧
        (∀ user ∈ company, reached.database.tally user.bytes = (company.card - 1 : Nat)) ∧
        (service.outcomes calls).countP isCreation = company.card * (company.card - 1) / 2 := by
  intro calls pairs reached
  obtain ⟨start, unrelated⟩ := Database.Complete.of_empty users edges counters
  have befriended := befriended_serveAll start unrelated invitations
  have answers := outcomes_invitations start unrelated invitations
  refine ⟨?_, befriended, ?_, ?_, ?_⟩
  · intro earlier next later _
    exact serve_after_invitations start unrelated earlier next
  · intro pair
    rw [answers, Invitation.count_parties_answers, Finset.sdiff_empty]
  · intro others same reachedToo
    have befriendedToo := befriended_serveAll start unrelated others
    rw [same] at befriendedToo
    exact ⟨befriendedToo.code_eq befriended, befriendedToo.tally_eq befriended⟩
  · intro company complete
    refine ⟨?_, ?_, ?_⟩
    · intro one isOne other isOther different
      exact befriended.code_of_mem ((complete one other).mpr ⟨isOne, isOther, different⟩)
    · intro user member
      rw [befriended.counts, complete.card_partners member]
    · rw [answers, Invitation.countP_answers, Finset.sdiff_empty, complete.card_pairs]

end Service

namespace Pair

/-- One of the four users is added by another one. -/
def invitation (caller : Caller) (target : UserId) (different : caller.id ≠ target)
    (registered : (circle.withId? target.bytes).isSome) : Invitation circle :=
  ⟨⟨budget, 0⟩, ⟨5, fun _ => ""⟩, caller, target, different, registered⟩

/-- Three of the four users add each other, two of them in both directions. -/
def trio : List (Invitation circle) :=
  [invitation ⟨ada, "ada"⟩ bob (by decide) rfl, invitation ⟨carol, "carol"⟩ ada (by decide) rfl,
    invitation ⟨bob, "bob"⟩ ada (by decide) rfl, invitation ⟨bob, "bob"⟩ carol (by decide) rfl]

/-- The invitations among the three make a company of them. -/
theorem company_trio : Company {ada, bob, carol} (Invitation.pairs trio) := by
  have apart : ada ≠ bob ∧ ada ≠ carol ∧ bob ≠ carol := by decide
  have listed : Invitation.pairs trio = {s(ada, bob), s(carol, ada), s(bob, carol)} := by decide
  intro one other
  simp only [listed, Finset.mem_insert, Finset.mem_singleton, Sym2.eq_iff]
  grind

end Pair

namespace Service

/-- Four additions make three friendships. -/
theorem additions_converge_trio :
    let reached := Pair.quartet.serveAll (Pair.trio.map Invitation.call)
    (reached.database.edge? Pair.carol.bytes Pair.bob.bytes).map (·.code) = some connected.code ∧
      reached.database.tally Pair.carol.bytes = 2 ∧
      (Pair.quartet.outcomes (Pair.trio.map Invitation.call)).countP isCreation = 3 := by
  intro reached
  obtain ⟨_, _, _, _, company⟩ := additions_converge Pair.quartet rfl rfl rfl Pair.trio
  obtain ⟨edges, counts, made⟩ := company _ Pair.company_trio
  exact ⟨edges _ (by decide) _ (by decide) (by decide), counts _ (by decide), made⟩

end Service

end FriendGraph
