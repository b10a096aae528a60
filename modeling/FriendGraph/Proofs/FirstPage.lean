import FriendGraph.Contacts.Graph
import FriendGraph.Proofs.Forms

/-! # The URL of the first page

The URL that a fetch starts with is the graph URL with a path and two pairs after it. What is read
of a web URL before its path ends is not changed by what the path goes on with
(`Url.parse?_append`), so the path can be put after any graph URL that has neither a query nor a
fragment, after its last slashes as well as without them. The access token is a value of a pair and
nothing else: it is read back from the query as it is, and all other parts of the URL are the same
for every token (`GraphClient.token_stays_in_query`).
-/

namespace FriendGraph

namespace Url

variable {chars rest after : List Char} {scheme : String} {url : Url}

/-! ## Cutting a text that goes on -/

/-- A text that is empty or starts with a slash: what a path may go on with. -/
def IsSlashed (chars : List Char) : Prop := ∀ c ∈ chars.head?, c = '/'

/-- A run of characters that a text starts with is not longer when something else follows. -/
theorem cut_append (isInner : Char → Bool) (stops : isInner '/' = false) (slashed : IsSlashed after)
    (chars : List Char) :
    (chars ++ after).takeWhile isInner = chars.takeWhile isInner ∧
      (chars ++ after).dropWhile isInner = chars.dropWhile isInner ++ after := by
  induction chars with
  | nil =>
    cases after with
    | nil => exact ⟨rfl, rfl⟩
    | cons c after =>
      have stopped : isInner c = false := slashed c rfl ▸ stops
      rw [List.nil_append, List.takeWhile_cons, List.dropWhile_cons, stopped]
      exact ⟨rfl, rfl⟩
  | cons c chars inductionHypothesis =>
    rw [List.cons_append]
    cases inner : isInner c with
    | true =>
      simp only [List.takeWhile_cons, List.dropWhile_cons, inner, if_true, inductionHypothesis,
        and_self]
    | false =>
      simp only [List.takeWhile_cons, List.dropWhile_cons, inner, Bool.false_eq_true, if_false,
        List.cons_append, and_self]

/-- A character of a scheme. -/
def isInScheme (c : Char) : Bool := c.isAlphanum || c == '+' || c == '-' || c == '.'

/-- A scheme is read up to the first colon, if it starts with a letter. -/
theorem scheme?_cons (first : Char) (chars : List Char) :
    scheme? (first :: chars) =
      if first.isAlpha then
        match (first :: chars).dropWhile isInScheme with
        | ':' :: rest =>
          some (String.ofList (((first :: chars).takeWhile isInScheme).map Char.toLower), rest)
        | _ => none
      else none := rfl

/-- The scheme is read before anything that starts with a slash. -/
theorem scheme?_append (slashed : IsSlashed after)
    (read : scheme? (chars ++ after) = some (scheme, rest)) :
    ∃ more, rest = more ++ after ∧
      ∀ other, IsSlashed other → scheme? (chars ++ other) = some (scheme, more ++ other) := by
  cases chars with
  | nil =>
    cases after with
    | nil => cases read
    | cons c after =>
      rw [slashed c rfl] at read
      cases read
  | cons first chars =>
    have unfolded (other : List Char) (otherSlashed : IsSlashed other) :
        scheme? (first :: chars ++ other) =
          if first.isAlpha then
            match (first :: chars).dropWhile isInScheme ++ other with
            | ':' :: rest =>
              some (String.ofList (((first :: chars).takeWhile isInScheme).map Char.toLower), rest)
            | _ => none
          else none := by
      have cut := cut_append isInScheme (by decide) otherSlashed (first :: chars)
      rw [← cut.1, ← cut.2]
      exact scheme?_cons first (chars ++ other)
    rw [unfolded after slashed] at read
    split at read
    · next letter =>
      -- The colon is not in what follows, since that starts with a slash.
      cases dropped : (first :: chars).dropWhile isInScheme with
      | nil =>
        rw [dropped, List.nil_append] at read
        split at read
        · next colon => cases slashed ':' rfl
        · cases read
      | cons mark inner =>
        rw [dropped, List.cons_append] at read
        split at read
        · next colon =>
          obtain ⟨rfl, rfl⟩ := List.cons.inj colon
          cases read
          refine ⟨inner, rfl, fun other otherSlashed => ?_⟩
          rw [unfolded other otherSlashed, if_pos letter, dropped]
          rfl
        · cases read
    · cases read

/-- A web URL names a place. -/
theorem authority?_of_noPlace (web : isWebScheme scheme = true) (isFollowed : Bool)
    (noPlace : (splitLast '@' chars).2 = []) : authority? scheme isFollowed chars = none := by
  have noHost (isUserNamed isPortNamed : Bool) :
      host? scheme isUserNamed isPortNamed [] = none := by
    rw [host?, if_pos web]
    decide +kernel
  unfold authority?
  cases split : splitLast '@' chars with
  | mk user place =>
    rw [split] at noPlace
    subst noPlace
    simp only [splitHost, noHost]
    rfl

/-- Whether a path follows makes no difference to the authority of a web URL. -/
theorem authority?_followed (web : isWebScheme scheme = true) (isFollowed : Bool)
    (chars : List Char) :
    authority? scheme isFollowed chars = authority? scheme false chars := by
  by_cases noPlace : (splitLast '@' chars).2 = []
  · rw [authority?_of_noPlace web _ noPlace, authority?_of_noPlace web _ noPlace]
  · unfold authority?
    cases split : splitLast '@' chars with
    | mk user place =>
      rw [split] at noPlace
      simp only [List.isEmpty_eq_false_iff.mpr noPlace, Bool.false_eq_true, false_and, and_false,
        if_false]

/-- A URL is assembled without a query and a fragment when their marks are not there. -/
theorem assemble_bare_iff {isWeb : Bool} {authority : Authority}
    {encode : List Char → List Char} :
    (assemble scheme isWeb authority encode chars).query = none ∧
        (assemble scheme isWeb authority encode chars).fragment = none ↔
      '?' ∉ chars ∧ '#' ∉ chars := by
  simp only [assemble, Option.map_eq_none_iff, Form.splitFirst_snd_eq_none_iff]
  refine and_congr_left fun noFragment => ?_
  rw [Form.splitFirst_of_not_mem noFragment]

/-- A URL without a query and a fragment has a path only. -/
theorem assemble_of_bare {isWeb : Bool} {authority : Authority} {encode : List Char → List Char}
    (noQuery : '?' ∉ chars) (noFragment : '#' ∉ chars) :
    assemble scheme isWeb authority encode chars =
      ⟨scheme, authority.host, authority.portNumber, String.ofList (encode chars), none, none⟩ := by
  rw [assemble, Form.splitFirst_of_not_mem noFragment]
  dsimp only
  rw [Form.splitFirst_of_not_mem noQuery]
  rfl

/-! ## A web URL that goes on -/

/-- A path that may be put after a URL. -/
structure IsPath (chars : List Char) : Prop where
  slashed : chars.head? = some '/'
  solid : ∀ c ∈ chars, ' ' < c
  noQuery : '?' ∉ chars
  noFragment : '#' ∉ chars

theorem IsPath.isSlashed (isPath : IsPath chars) : IsSlashed chars := by
  intro c head
  rw [isPath.slashed] at head
  exact (Option.some.inj head).symm

/-- The authority of a web URL is the same whatever path follows. -/
theorem ofAuthority?_append (web : isWebScheme scheme = true) (slashed : IsSlashed after)
    (read : ofAuthority? scheme (chars ++ after) = some url)
    (bare : url.query = none ∧ url.fragment = none) {other : List Char} (isPath : IsPath other) :
    ∃ path, ofAuthority? scheme (chars ++ other) =
      some ⟨scheme, url.host, url.portNumber, path, none, none⟩ := by
  have unfolded (next : List Char) (nextSlashed : IsSlashed next) :
      ofAuthority? scheme (chars ++ next) =
        (authority? scheme false (chars.takeWhile (!endsAuthority true ·))).map fun read =>
          assemble scheme true read.1 (encodePath true)
            (read.2 ++ (chars.dropWhile (!endsAuthority true ·) ++ next)) := by
    have cut := cut_append (!endsAuthority true ·) (by decide) nextSlashed chars
    rw [ofAuthority?]
    simp only [web, cut.1, cut.2, authority?_followed web]
    cases authority? scheme false (chars.takeWhile (!endsAuthority true ·)) <;> rfl
  rw [unfolded after slashed] at read
  obtain ⟨found, authority, rfl⟩ := Option.map_eq_some_iff.mp read
  rw [assemble_bare_iff] at bare
  simp only [List.mem_append, not_or] at bare
  obtain ⟨⟨noQuery, noQueryInside, _⟩, ⟨noFragment, noFragmentInside, _⟩⟩ := bare
  refine ⟨String.ofList (encodePath true
    (found.2 ++ (chars.dropWhile (!endsAuthority true ·) ++ other))), ?_⟩
  rw [unfolded other isPath.isSlashed, authority, Option.map_some, assemble_of_bare]
  · rfl
  · simp only [List.mem_append, not_or]
    exact ⟨noQuery, noQueryInside, isPath.noQuery⟩
  · simp only [List.mem_append, not_or]
    exact ⟨noFragment, noFragmentInside, isPath.noFragment⟩

/-- A web URL needs more than slashes after its scheme. -/
theorem ofAuthority?_nil (web : isWebScheme scheme = true) : ofAuthority? scheme [] = none := by
  have nothing (isFollowed : Bool) : authority? scheme isFollowed [] = none :=
    authority?_of_noPlace web isFollowed rfl
  rw [ofAuthority?]
  simp only [List.takeWhile_nil, nothing]
  rfl

/-- A line break or a tab inside a URL is passed over. -/
def isKept (c : Char) : Bool := c != '\t' && c != '\n' && c != '\r'

/-- A character beyond the blank is kept. -/
theorem isKept_of_solid {c : Char} (solid : ' ' < c) : isKept c = true := by
  simp only [isKept, Bool.and_eq_true, bne_iff_ne]
  refine ⟨⟨?_, ?_⟩, ?_⟩ <;>
  · rintro rfl
    exact absurd solid (by decide)

/-- The blanks before a text are passed over. -/
theorem tidy_append (slashed : IsSlashed after) (solid : ∀ c ∈ after, ' ' < c)
    (whole : ∀ c ∈ (chars ++ after).getLast?, ' ' < c) :
    tidy (String.ofList (chars ++ after)) =
      (chars.dropWhile (· ≤ ' ')).filter isKept ++ after := by
  have cut := (cut_append (fun c => decide (c ≤ ' ')) (by decide) slashed chars).2
  have ends : (chars.dropWhile (· ≤ ' ') ++ after).reverse.dropWhile (· ≤ ' ') =
      (chars.dropWhile (· ≤ ' ') ++ after).reverse := by
    cases reversed : (chars.dropWhile (· ≤ ' ') ++ after).reverse with
    | nil => rfl
    | cons last rest =>
      have isLast : last ∈ (chars ++ after).getLast? := by
        rw [← List.takeWhile_append_dropWhile (p := fun c => decide (c ≤ ' '))
            (l := chars ++ after),
          cut, List.reverse_eq_cons_iff.mp reversed, ← List.append_assoc]
        exact List.getLast?_concat
      rw [List.dropWhile_cons, decide_eq_false (Char.not_le.mpr (whole last isLast))]
      rfl
  have kept : after.filter isKept = after :=
    List.filter_eq_self.mpr fun c member => isKept_of_solid (solid c member)
  simp only [tidy, String.toList_ofList]
  rw [cut, ends, List.reverse_reverse, ← kept, ← List.filter_append, kept]
  rfl

/-- The scheme stays what it was read as. -/
theorem scheme_of_ofAuthority? (read : ofAuthority? scheme chars = some url) :
    url.scheme = scheme := by
  obtain ⟨found, -, assembled⟩ := Option.bind_eq_some_iff.mp read
  cases assembled
  rfl

theorem scheme_of_ofFile? (read : ofFile? chars = some url) : url.scheme = "file" := by
  dsimp only [ofFile?] at read
  split at read
  · cases read
    rfl
  split at read
  · cases read
    rfl
  · obtain ⟨host, -, assembled⟩ := Option.bind_eq_some_iff.mp read
    cases assembled
    rfl

/-- The scheme of a URL is the one that its text starts with. -/
theorem exists_scheme?_of_parse? {text : String} (parsed : parse? text = some url) :
    ∃ rest, scheme? (tidy text) = some (url.scheme, rest) := by
  obtain ⟨⟨scheme, rest⟩, read, parsed⟩ := Option.bind_eq_some_iff.mp parsed
  refine ⟨rest, read.trans ?_⟩
  suffices same : url.scheme = scheme by rw [same]
  dsimp only at parsed
  split at parsed
  · next file => exact (scheme_of_ofFile? parsed).trans file.symm
  split at parsed
  · exact scheme_of_ofAuthority? parsed
  split at parsed
  · exact scheme_of_ofAuthority? parsed
  · cases parsed
    rfl
  · cases parsed
    rfl

/-- A scheme whose requests can be made. -/
def IsHttp (scheme : String) : Prop := scheme = "http" ∨ scheme = "https"

theorem IsHttp.isWebScheme (http : IsHttp scheme) : isWebScheme scheme = true := by
  rcases http with rfl | rfl <;> decide

/-- A web URL is read from behind its slashes. -/
theorem parse?_of_scheme? {text : String} (http : IsHttp scheme)
    (read : scheme? (tidy text) = some (scheme, rest)) :
    parse? text = ofAuthority? scheme (rest.dropWhile (isSlash true)) := by
  have noFile : scheme ≠ "file" := by
    rcases http with rfl | rfl <;> decide
  rw [parse?, read]
  simp only [Option.bind_eq_bind, Option.bind_some, noFile, http.isWebScheme, if_false, if_true]

/-- **A path may be put after a URL.** Where a URL without a query and a fragment is read, with
slashes at its end or without them, a path may follow instead of the slashes; then the scheme, the
host and the port number are the same. -/
theorem parse?_append {count : Nat}
    (parsed : parse? (String.ofList (chars ++ List.replicate count '/')) = some url)
    (http : IsHttp url.scheme) (bare : url.query = none ∧ url.fragment = none)
    (whole : ∀ c ∈ (chars ++ List.replicate count '/').getLast?, ' ' < c) {path : List Char}
    (isPath : IsPath path) :
    ∃ joined, parse? (String.ofList (chars ++ path)) =
      some ⟨url.scheme, url.host, url.portNumber, joined, none, none⟩ := by
  have slash : ∀ c ∈ List.replicate count '/', c = '/' := fun c => List.eq_of_mem_replicate
  have slashed : IsSlashed (List.replicate count '/') :=
    fun c head => slash c (List.mem_of_mem_head? head)
  have solid : ∀ c ∈ List.replicate count '/', ' ' < c := by
    intro c member
    rw [slash c member]
    decide
  have ends : ∀ c ∈ (chars ++ path).getLast?, ' ' < c := by
    have nonempty : path ≠ [] := by
      rintro rfl
      cases isPath.slashed
    intro c member
    rw [List.getLast?_append, List.getLast?_eq_some_getLast nonempty] at member
    cases Option.some.inj member
    exact isPath.solid _ (List.getLast_mem nonempty)
  obtain ⟨rest, read⟩ := exists_scheme?_of_parse? parsed
  rw [parse?_of_scheme? http read] at parsed
  rw [tidy_append slashed solid whole] at read
  obtain ⟨more, rfl, again⟩ := scheme?_append slashed read
  have there := again path isPath.isSlashed
  rw [← tidy_append isPath.isSlashed isPath.solid ends] at there
  rw [parse?_of_scheme? http there]
  rw [List.dropWhile_append] at parsed ⊢
  split at parsed
  · have allSlashes : (List.replicate count '/').dropWhile (isSlash true) = [] := by
      rw [List.dropWhile_eq_nil_iff]
      intro c member
      rw [slash c member]
      rfl
    rw [allSlashes, ofAuthority?_nil http.isWebScheme] at parsed
    cases parsed
  · next hasPlace =>
    rw [if_neg hasPlace]
    exact ofAuthority?_append http.isWebScheme slashed parsed bare isPath

end Url

namespace GraphClient

/-! ## The graph URL -/

/-- A text is a graph URL: a URL for requests that has neither a query nor a fragment, and nothing
after it, so that a path may follow. -/
structure IsBase (text : String) (base : Url) : Prop where
  parsed : Url.parse? text = some base
  http : Url.IsHttp base.scheme
  noQuery : base.query = none
  noFragment : base.fragment = none
  whole : ∀ c ∈ text.toList.getLast?, ' ' < c

/-- A text with so many slashes at its end. -/
def withSlashes (count : Nat) (text : String) : String :=
  text ++ String.ofList (List.replicate count '/')

/-- Slashes at the end come first backwards. -/
theorem reverse_withSlashes (count : Nat) (text : String) :
    (withSlashes count text).toList.reverse = List.replicate count '/' ++ text.toList.reverse := by
  rw [withSlashes, String.toList_append, String.toList_ofList, List.reverse_append,
    List.reverse_replicate]

/-- Slashes at the end of a text make no difference. -/
theorem trimSlashes_withSlashes (count : Nat) (text : String) :
    trimSlashes (withSlashes count text) = trimSlashes text := by
  have slash : ∀ c ∈ List.replicate count '/', (c == '/') = true := by
    intro c member
    rw [List.eq_of_mem_replicate member]
    rfl
  rw [trimSlashes, reverse_withSlashes, List.dropWhile_append_of_pos slash, trimSlashes]

/-- A text is what is left of it without the slashes at its end, and the slashes. -/
theorem exists_withSlashes_trimSlashes (text : String) :
    ∃ count, text.toList = (trimSlashes text).toList ++ List.replicate count '/' := by
  let slashes := text.toList.reverse.takeWhile (· == '/')
  have slash : ∀ c ∈ slashes, c = '/' := fun c member =>
    eq_of_beq (List.mem_takeWhile_imp (p := (· == '/')) member)
  refine ⟨slashes.length, ?_⟩
  calc text.toList = (slashes ++ text.toList.reverse.dropWhile (· == '/')).reverse := by
        rw [List.takeWhile_append_dropWhile, List.reverse_reverse]
    _ = (trimSlashes text).toList ++ slashes.reverse := by
        rw [List.reverse_append, trimSlashes, String.toList_ofList]
    _ = (trimSlashes text).toList ++ List.replicate slashes.length '/' := by
        rw [← List.reverse_replicate, ← List.eq_replicate_of_mem slash]

/-- The path of the contacts of an account. -/
theorem isPath_friends : Url.IsPath "/me/friends".toList where
  slashed := rfl
  solid := by
    have all : "/me/friends".toList.all (' ' < ·) = true := by decide
    exact fun c member => of_decide_eq_true (List.all_eq_true.mp all c member)
  noQuery := by decide
  noFragment := by decide

/-- There is a URL for the contacts under every graph URL. -/
theorem exists_friendsUrl {text : String} {base : Url} (isBase : IsBase text base) :
    ∃ path, Url.parse? (trimSlashes text ++ "/me/friends") =
      some ⟨base.scheme, base.host, base.portNumber, path, none, none⟩ := by
  obtain ⟨count, shape⟩ := exists_withSlashes_trimSlashes text
  have parsed := isBase.parsed
  have whole := isBase.whole
  rw [← String.ofList_toList (s := text), shape] at parsed
  rw [shape] at whole
  have joined := Url.parse?_append parsed isBase.http ⟨isBase.noQuery, isBase.noFragment⟩ whole
    isPath_friends
  rwa [String.ofList_append, String.ofList_toList, String.ofList_toList] at joined

/-! ## The query -/

/-- Pairs that are added to a URL without a query are all that its query holds. -/
theorem withPairs_of_noQuery {url : Url} (noQuery : url.query = none)
    (pairs : List (String × String)) :
    url.withPairs pairs = { url with query := some (String.ofList (Form.encode pairs)) } := by
  rw [Url.withPairs, noQuery]

/-- URLs that differ in their queries only are written differently. -/
theorem text_withQuery_inj {url : Url} {query other : String} :
    ({ url with query := some query } : Url).text = ({ url with query := some other } : Url).text ↔
      query = other := by
  refine ⟨fun same => ?_, fun same => by rw [same]⟩
  rw [Url.text, Url.text] at same
  rw [String.append_left_inj, String.append_right_inj] at same
  exact (String.append_right_inj "?").mp same

/-- **An access token stays in the query.** Under every graph URL there is one URL for the first
page of all accounts but for its query, with the scheme, the host and the port number of the graph
URL and however many slashes stand at its end. What is read from the query is the token as it is and
the number of contacts on a page, so different tokens make different URLs. -/
theorem token_stays_in_query (client : GraphClient) (base : Url)
    (isBase : IsBase client.graphUrl base) :
    ∃ first : Url, first.scheme = base.scheme ∧ first.host = base.host ∧
      first.portNumber = base.portNumber ∧ first.fragment = none ∧
      (∀ (count : Nat) (token : String), ∃ query : String,
        firstPage? { client with graphUrl := withSlashes count client.graphUrl } token =
            some { first with query := some query } ∧
          Form.decode? query.toList =
            some [("access_token", token), ("limit", toString client.pageLimit)]) ∧
      ∀ token other : String,
        (client.firstPage? token).map Url.text = (client.firstPage? other).map Url.text ↔
          token = other := by
  obtain ⟨path, parsed⟩ := exists_friendsUrl isBase
  let first : Url := ⟨base.scheme, base.host, base.portNumber, path, none, none⟩
  let query (token : String) : String :=
    String.ofList (Form.encode [("access_token", token), ("limit", toString client.pageLimit)])
  have made (token : String) :
      client.firstPage? token = some { first with query := some (query token) } := by
    rw [firstPage?, parsed, Option.map_some, withPairs_of_noQuery rfl]
  refine ⟨first, rfl, rfl, rfl, rfl, fun count token => ⟨query token, ?_, ?_⟩,
    fun token other => ?_⟩
  · rw [← made token, firstPage?, firstPage?, trimSlashes_withSlashes]
  · rw [String.toList_ofList, Form.decode?_encode]
  · rw [made, made, Option.map_some, Option.map_some, Option.some.injEq, text_withQuery_inj,
      String.ofList_inj, Form.encode_inj]
    simp only [List.cons.injEq, Prod.mk.injEq, true_and, and_true]

/-- A client for a network on the machine itself. -/
def homeClient : GraphClient := ⟨"http://[::1]/v2", 5, 1⟩

/-- A token that would end its pair and the query and ask for fewer contacts is read as it is, and
makes another URL than the token that it starts with. -/
theorem token_stays_in_query_forged :
    IsBase homeClient.graphUrl
        ⟨"http", some (.ipv6 [0, 0, 0, 0, 0, 0, 0, 1]), none, "/v2", none, none⟩ ∧
      (∃ (first : Url) (query : String),
        firstPage? { homeClient with graphUrl := withSlashes 2 homeClient.graphUrl }
            "a&limit=1#\u00e9" = some { first with query := some query } ∧
          Form.decode? query.toList =
            some [("access_token", "a&limit=1#\u00e9"), ("limit", "5")]) ∧
      (homeClient.firstPage? "a&limit=1#\u00e9").map Url.text ≠
        (homeClient.firstPage? "a").map Url.text := by
  have isBase : IsBase homeClient.graphUrl
      ⟨"http", some (.ipv6 [0, 0, 0, 0, 0, 0, 0, 1]), none, "/v2", none, none⟩ :=
    { parsed := by decide +kernel, http := .inl rfl, noQuery := rfl, noFragment := rfl,
      whole := by
        intro c last
        cases Option.mem_some.mp last
        decide }
  obtain ⟨first, _, _, _, _, made, differ⟩ := token_stays_in_query homeClient _ isBase
  obtain ⟨query, asked, read⟩ := made 2 "a&limit=1#\u00e9"
  refine ⟨isBase, ⟨first, query, asked, read⟩, ?_⟩
  rw [ne_eq, differ]
  decide

end GraphClient

end FriendGraph
