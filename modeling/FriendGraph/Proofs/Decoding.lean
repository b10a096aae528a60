import FriendGraph.Proofs.Asking
import FriendGraph.Proofs.Reading
import FriendGraph.Proofs.Written

/-! # Pages are decoded completely or not at all

The objects that stand for a page may hold their members in any order and any number of unknown
ones besides, and may leave out what has a default (`ContactPage.Shows`). Every text of such an
object decodes to the page (`ContactPage.parse?_of_shows`). One defect anywhere spoils the whole
text (`ContactPage.IsSpoiled`): a contact without an identifier, something else in the place of a
text or of the list, a known member twice in one object, anything after the value. So is a text that
no value has.

A spoiled text in a successful answer ends a fetch at once: no attempt follows it, and no contacts
are answered, not even those of the pages before (`ContactPage.pages_decode_whole_or_fail`).
-/

namespace FriendGraph

namespace Json

/-! ## Members -/

/-- Members in any order: the known ones with any number of others, which have other names. -/
def Among (names : List String) (known members : List (Option String × Json)) : Prop :=
  ∃ unknown, members.Perm (known ++ unknown) ∧
    ∀ member ∈ unknown, ∃ name, member.1 = some name ∧ name ∉ names

/-- Two members of an object have the same name. -/
def Repeats (name : String) (members : List (Option String × Json)) : Prop :=
  ∃ first second, [(some name, first), (some name, second)].Sublist members

/-- A value that is no text. -/
def IsNoText (value : Json) : Prop := ∀ text, value ≠ ofString text

variable {name : String} {members : List (Option String × Json)} {value : Json}

/-- The order of members does not matter. -/
theorem member?_of_perm {others : List (Option String × Json)} (perm : members.Perm others) :
    member? name members = member? name others := by
  have filtered := perm.filter (·.1 == some name)
  rw [member?, member?]
  generalize members.filter (·.1 == some name) = found at filtered
  generalize others.filter (·.1 == some name) = alsoFound at filtered
  match found with
  | [] => rw [filtered.nil_eq]
  | [_] => rw [List.singleton_perm.mp filtered]
  | _ :: _ :: _ =>
    match alsoFound with
    | [] => exact absurd filtered.length_eq (by simp)
    | [_] => exact absurd filtered.length_eq (by simp)
    | _ :: _ :: _ => rfl

/-- Members with other names do not matter. -/
theorem member?_append {unknown : List (Option String × Json)}
    (other : ∀ member ∈ unknown, member.1 ≠ some name) :
    member? name (members ++ unknown) = member? name members := by
  have nothing : unknown.filter (·.1 == some name) = [] :=
    List.filter_eq_nil_iff.mpr fun member mem same => other member mem (eq_of_beq same)
  rw [member?, member?, List.filter_append, nothing, List.append_nil]

/-- A known member is found among unknown ones. -/
theorem Among.member? {names : List String} {known : List (Option String × Json)}
    (among : Among names known members) (isKnown : name ∈ names) :
    member? name members = Json.member? name known := by
  obtain ⟨unknown, perm, other⟩ := among
  rw [member?_of_perm perm, member?_append]
  intro member mem same
  obtain ⟨text, named, unlisted⟩ := other member mem
  rw [Option.some.inj (named.symm.trans same)] at unlisted
  exact unlisted isKnown

/-- A member is found, unless its name is repeated. -/
theorem eq_of_member?_of_mem {found : Option Json} (got : member? name members = some found)
    (member : (some name, value) ∈ members) : found = some value := by
  have among : (some name, value) ∈ members.filter (·.1 == some name) :=
    List.mem_filter.mpr ⟨member, beq_self_eq_true _⟩
  rw [member?] at got
  generalize members.filter (·.1 == some name) = candidates at among got
  match candidates with
  | [] => nomatch among
  | [_] =>
    cases List.mem_singleton.mp among
    exact (Option.some.inj got).symm
  | _ :: _ :: _ => nomatch got

/-- A name that is missing has no value. -/
theorem member?_of_missing (missing : ∀ value, (some name, value) ∉ members) :
    member? name members = some none := by
  have nothing : members.filter (·.1 == some name) = [] := by
    refine List.filter_eq_nil_iff.mpr fun member mem same => ?_
    refine missing member.2 ?_
    rw [← eq_of_beq same]
    exact mem
  rw [member?, nothing]

/-- A name that comes twice cannot be looked up. -/
theorem member?_of_repeats (repeats : Repeats name members) : member? name members = none := by
  obtain ⟨first, second, sublist⟩ := repeats
  have both := sublist.filter (·.1 == some name)
  have whole : [(some name, first), (some name, second)].filter (·.1 == some name) =
      [(some name, first), (some name, second)] := by simp
  rw [whole] at both
  have long := both.length_le
  rw [member?]
  generalize members.filter (·.1 == some name) = found at long
  match found with
  | [] => exact absurd long (by simp)
  | [_] => exact absurd long (by simp)
  | _ :: _ :: _ => rfl

/-- What a member with a default holds: what is read from it, or the default where it is missing. -/
def field? {Held : Type} (name : String) (read : Json → Option Held) (default : Held)
    (members : List (Option String × Json)) : Option Held :=
  (Json.member? name members).bind fun value => (value.map read).getD (some default)

section Field

variable {Held : Type} {read : Json → Option Held} {default : Held}

/-- A known field is read among unknown members. -/
theorem Among.field? {names : List String} {known : List (Option String × Json)}
    (among : Among names known members) (isKnown : name ∈ names) :
    field? name read default members = Json.field? name read default known := by
  rw [Json.field?, Json.field?, among.member? isKnown]

/-- Where there is a member, the field is read from it. -/
theorem read_of_mem {held : Held} (got : field? name read default members = some held)
    (member : (some name, value) ∈ members) : read value = some held := by
  obtain ⟨found, gotMember, gotHeld⟩ := Option.bind_eq_some_iff.mp got
  cases eq_of_member?_of_mem gotMember member
  exact gotHeld

/-- A field whose name comes twice cannot be read. -/
theorem field?_of_repeats (repeats : Repeats name members) :
    field? name read default members = none := by
  rw [field?, member?_of_repeats repeats]
  rfl

end Field

/-- What is no text is not read as one. -/
theorem asText?_of_noText (noText : IsNoText value) : value.asText? = none := by
  cases value with
  | string text =>
    cases text with
    | none => rfl
    | some text => exact absurd rfl (noText text)
  | _ => rfl

end Json

namespace ContactPage

open Json (Among Repeats IsNoText)

/-! ## What stands for a page -/

/-- The objects for a contact; an empty name may be left out. -/
inductive ShowsContact (contact : Contact) : Json → Prop
  | named {members : List (Option String × Json)}
      (among : Among ["id", "name"]
        [(some "id", .ofString contact.id), (some "name", .ofString contact.name)] members) :
      ShowsContact contact (.object members)
  | nameless {members : List (Option String × Json)} (empty : contact.name = "")
      (among : Among ["id", "name"] [(some "id", .ofString contact.id)] members) :
      ShowsContact contact (.object members)

/-- The member for the contacts of a page, which may be left out if there are none. -/
inductive ShowsContacts : List Contact → List (Option String × Json) → Prop
  | omitted : ShowsContacts [] []
  | list {contacts : List Contact} {items : List Json}
      (shown : List.Forall₂ ShowsContact contacts items) :
      ShowsContacts contacts [(some "data", .array items)]

/-- The member for the link of a page. Where there is no link, it may be left out or null, or the
link in it may be. -/
inductive ShowsLink : Option String → List (Option String × Json) → Prop
  | omitted : ShowsLink none []
  | null : ShowsLink none [(some "paging", .null)]
  | without {members : List (Option String × Json)} (among : Among ["next"] [] members) :
      ShowsLink none [(some "paging", .object members)]
  | nullLink {members : List (Option String × Json)}
      (among : Among ["next"] [(some "next", .null)] members) :
      ShowsLink none [(some "paging", .object members)]
  | link {link : String} {members : List (Option String × Json)}
      (among : Among ["next"] [(some "next", .ofString link)] members) :
      ShowsLink (some link) [(some "paging", .object members)]

/-- The objects for a page. -/
inductive Shows (page : ContactPage) : Json → Prop
  | object {contacts link members : List (Option String × Json)}
      (showsContacts : ShowsContacts page.contacts contacts) (showsLink : ShowsLink page.next link)
      (among : Among ["data", "paging"] (contacts ++ link) members) : Shows page (.object members)

/-! ## Every object for a page decodes to it -/

/-- Unknown members have names as well. -/
theorem hasNames_of_among {names : List String} {known members : List (Option String × Json)}
    (among : Among names known members) (named : hasNames known = true) :
    hasNames members = true := by
  obtain ⟨unknown, perm, other⟩ := among
  rw [hasNames, perm.all_eq, List.all_append, Bool.and_eq_true]
  refine ⟨named, List.all_eq_true.mpr fun member mem => ?_⟩
  obtain ⟨name, same, _⟩ := other member mem
  rw [same]
  rfl

/-- A contact is read from the identifier and the name of its members. -/
theorem contact?_object (members : List (Option String × Json)) :
    contact? (.object members) =
      if hasNames members then
        ((Json.member? "id" members).bind (·.bind Json.asText?)).bind fun id =>
          (Json.field? "name" Json.asText? "" members).map fun name => ⟨id, name⟩
      else none := by
  rw [contact?, Json.field?]
  cases hasNames members with
  | false => rfl
  | true =>
    rcases Json.member? "id" members with _ | _ | id
    · rfl
    · rfl
    · dsimp only [Option.bind_eq_bind, Option.bind_some]
      cases id.asText? with
      | none => rfl
      | some text =>
        rcases Json.member? "name" members with _ | _ | name
        · rfl
        · rfl
        · exact Option.map_eq_bind.symm

/-- The link is read from the member for the next page. -/
theorem paging?_object (members : List (Option String × Json)) :
    paging? (.object members) =
      if hasNames members then Json.field? "next" link? none members else none := by
  rw [paging?, Json.field?]
  cases hasNames members with
  | false => rfl
  | true => rcases Json.member? "next" members with _ | _ | next <;> rfl

/-- A page is read from its contacts and its paging. -/
theorem ofJson?_object (members : List (Option String × Json)) :
    ofJson? (.object members) =
      if hasNames members then
        (Json.field? "data" contacts? [] members).bind fun contacts =>
          (Json.field? "paging" paging? none members).map fun next => ⟨contacts, next⟩
      else none := by
  rw [ofJson?, Json.field?, Json.field?]
  cases hasNames members with
  | false => rfl
  | true =>
    rcases Json.member? "paging" members with _ | _ | paging
    · rcases Json.member? "data" members with _ | _ | data <;> rfl
    · rcases Json.member? "data" members with _ | _ | data <;> rfl
    · rcases Json.member? "data" members with _ | _ | data
      · rfl
      · exact Option.map_eq_bind.symm
      · dsimp only [Option.bind_eq_bind, Option.bind_some, Option.map_some, Option.getD_some]
        cases contacts? data with
        | none => rfl
        | some contacts => exact Option.map_eq_bind.symm

/-- A value that shows a contact is read as that contact. -/
theorem contact?_of_shows {contact : Contact} {value : Json} (shows : ShowsContact contact value) :
    contact? value = some contact := by
  obtain ⟨id, name⟩ := contact
  cases shows with
  | named among =>
    rw [contact?_object, hasNames_of_among among rfl, among.member? (by decide),
      among.field? (by decide)]
    rfl
  | nameless empty among =>
    cases empty
    rw [contact?_object, hasNames_of_among among rfl, among.member? (by decide),
      among.field? (by decide)]
    rfl

/-- Values that show contacts, one each, are read as these contacts. -/
theorem contacts?_of_shows {contacts : List Contact} {items : List Json}
    (shown : List.Forall₂ ShowsContact contacts items) :
    contacts? (.array items) = some contacts := by
  rw [contacts?]
  induction shown with
  | nil => rfl
  | cons first _ inductionHypothesis =>
    rw [List.mapM_cons, contact?_of_shows first, inductionHypothesis]
    rfl

/-- Of the members of a paging only the link to the next page matters. -/
theorem paging?_of_among {known members : List (Option String × Json)}
    (among : Among ["next"] known members) (named : hasNames known = true) :
    paging? (.object members) = Json.field? "next" link? none known := by
  rw [paging?_object, hasNames_of_among among named, among.field? (by decide), if_pos rfl]

section Page

variable {found : List Contact} {next : Option String}
  {contacts link : List (Option String × Json)}

/-- The member for the contacts is missing or holds them. -/
theorem data_of_shows (showsContacts : ShowsContacts found contacts)
    (showsLink : ShowsLink next link) :
    Json.field? "data" contacts? [] (contacts ++ link) = some found := by
  have other : ∀ member ∈ link, member.1 ≠ some "data" := by
    intro member mem
    cases showsLink with
    | omitted => nomatch mem
    | _ =>
      cases List.mem_singleton.mp mem
      exact show some "paging" ≠ some "data" by decide
  rw [Json.field?, Json.member?_append other]
  cases showsContacts with
  | omitted => rfl
  | list shown => exact contacts?_of_shows shown

/-- The member for the link is missing or holds it. -/
theorem paging_of_shows (showsContacts : ShowsContacts found contacts)
    (showsLink : ShowsLink next link) :
    Json.field? "paging" paging? none (contacts ++ link) = some next := by
  have other : ∀ member ∈ contacts, member.1 ≠ some "paging" := by
    intro member mem
    cases showsContacts with
    | omitted => nomatch mem
    | list =>
      cases List.mem_singleton.mp mem
      exact show some "data" ≠ some "paging" by decide
  rw [Json.field?, Json.member?_of_perm List.perm_append_comm, Json.member?_append other]
  cases showsLink with
  | omitted => rfl
  | null => rfl
  | without among => exact paging?_of_among among rfl
  | nullLink among => exact paging?_of_among among rfl
  | link among => exact paging?_of_among among rfl

/-- What shows contacts and a link consists of named members. -/
theorem hasNames_of_shows (showsContacts : ShowsContacts found contacts)
    (showsLink : ShowsLink next link) : hasNames (contacts ++ link) = true := by
  cases showsContacts <;> cases showsLink <;> rfl

end Page

/-- A value that shows a page is read as that page. -/
theorem ofJson?_of_shows {page : ContactPage} {value : Json} (shows : Shows page value) :
    ofJson? value = some page := by
  obtain @⟨contacts, link, members, showsContacts, showsLink, among⟩ := shows
  rw [ofJson?_object, hasNames_of_among among (hasNames_of_shows showsContacts showsLink),
    among.field? (by decide), among.field? (by decide), data_of_shows showsContacts showsLink,
    paging_of_shows showsContacts showsLink]
  rfl

/-- **Every text of an object for a page decodes to the page.** -/
theorem parse?_of_shows {page : ContactPage} {value : Json} {text : String}
    (shows : Shows page value) (spelled : value.SpelledBy text) : parse? text = some page := by
  rw [parse?, Json.parse?_of_spelledBy spelled]
  exact ofJson?_of_shows shows

/-! ## What is no page -/

/-- A field of a record: a member of an object, or what stands in the place of the field in an
array. -/
inductive HasField (name : String) (place : Nat) (value : Json) : Json → Prop
  | member {members : List (Option String × Json)} (among : (some name, value) ∈ members) :
      HasField name place value (.object members)
  | entry {fields : List Json} (placed : fields[place]? = some value) :
      HasField name place value (.array fields)

/-- The fields of a contact with their places. -/
def contactFields : List (String × Nat) := [("id", 0), ("name", 1)]

/-- The records that are no contact. -/
inductive SpoilsContact : Json → Prop
  | unidentified {members : List (Option String × Json)}
      (missing : ∀ value, (some "id", value) ∉ members) : SpoilsContact (.object members)
  | noText {record value : Json} {field : String × Nat} (known : field ∈ contactFields)
      (has : HasField field.1 field.2 value record) (noText : IsNoText value) : SpoilsContact record
  | repeated {members : List (Option String × Json)} {name : String} (known : name ∈ ["id", "name"])
      (repeats : Repeats name members) : SpoilsContact (.object members)

/-- The records that are no page, because of themselves or of one contact. -/
inductive SpoilsPage : Json → Prop
  | contact {record item : Json} {items : List Json} (has : HasField "data" 0 (.array items) record)
      (listed : item ∈ items) (spoils : SpoilsContact item) : SpoilsPage record
  | noList {record data : Json} (has : HasField "data" 0 data record)
      (noList : ∀ items, data ≠ .array items) : SpoilsPage record
  | repeated {members : List (Option String × Json)} {name : String}
      (known : name ∈ ["data", "paging"]) (repeats : Repeats name members) :
      SpoilsPage (.object members)
  | repeatedLink {record : Json} {members : List (Option String × Json)}
      (has : HasField "paging" 1 (.object members) record) (repeats : Repeats "next" members) :
      SpoilsPage record

/-- The texts that are no page: texts of no value, texts of such a record, and texts of any value
with more after it than blanks. -/
inductive IsSpoiled (text : String) : Prop
  | malformed (noValue : ∀ value : Json, ¬value.SpelledBy text)
  | record {value : Json} (spelled : value.SpelledBy text) (spoils : SpoilsPage value)
  | further {value : Json} {before chars after : List Char}
      (shape : text.toList = before ++ (chars ++ after)) (blank : Json.IsBlanks before)
      (spells : value.Spells chars) (more : ¬Json.IsBlanks after)

/-- What the members of a contact are. -/
theorem members_of_contact? {members : List (Option String × Json)} {contact : Contact}
    (read : contact? (.object members) = some contact) :
    (∃ id, Json.member? "id" members = some (some id) ∧ id.asText? = some contact.id) ∧
      Json.field? "name" Json.asText? "" members = some contact.name := by
  rw [contact?_object, Option.ite_none_right_eq_some] at read
  obtain ⟨text, gotId, named⟩ := Option.bind_eq_some_iff.mp read.2
  obtain ⟨name, gotName, rfl⟩ := Option.map_eq_some_iff.mp named
  obtain ⟨id, got, isText⟩ := Option.bind_eq_some_iff.mp gotId
  obtain ⟨id, rfl, isId⟩ := Option.bind_eq_some_iff.mp isText
  exact ⟨⟨id, got, isId⟩, gotName⟩

/-- What the members of a page are. -/
theorem members_of_ofJson? {members : List (Option String × Json)} {page : ContactPage}
    (read : ofJson? (.object members) = some page) :
    Json.field? "data" contacts? [] members = some page.contacts ∧
      Json.field? "paging" paging? none members = some page.next := by
  rw [ofJson?_object, Option.ite_none_right_eq_some] at read
  obtain ⟨contacts, gotContacts, linked⟩ := Option.bind_eq_some_iff.mp read.2
  obtain ⟨next, gotNext, rfl⟩ := Option.map_eq_some_iff.mp linked
  exact ⟨gotContacts, gotNext⟩

/-- A contact in an array has texts only. -/
theorem texts_of_contact? {fields : List Json} {contact : Contact}
    (read : contact? (.array fields) = some contact) : ∀ value ∈ fields, value.asText?.isSome := by
  match fields with
  | [] => nomatch read
  | [id] =>
    obtain ⟨text, isId, _⟩ := Option.bind_eq_some_iff.mp read
    simp [isId]
  | [id, name] =>
    obtain ⟨text, isId, last⟩ := Option.bind_eq_some_iff.mp read
    obtain ⟨shown, isName, _⟩ := Option.bind_eq_some_iff.mp last
    simp [isId, isName]
  | _ :: _ :: _ :: _ => nomatch read

/-- A spoiled contact is not read. -/
theorem contact?_of_spoils {record : Json} (spoils : SpoilsContact record) :
    contact? record = none := by
  refine Option.eq_none_iff_forall_ne_some.mpr fun contact read => ?_
  cases spoils with
  | unidentified missing =>
    obtain ⟨⟨id, gotId, _⟩, _⟩ := members_of_contact? read
    cases gotId.symm.trans (Json.member?_of_missing missing)
  | repeated known repeats =>
    obtain ⟨⟨id, gotId, _⟩, gotName⟩ := members_of_contact? read
    rcases List.mem_pair.mp known with rfl | rfl
    · cases gotId.symm.trans (Json.member?_of_repeats repeats)
    · cases gotName.symm.trans (Json.field?_of_repeats repeats)
  | @noText _ value field known has noText =>
    have unread := Json.asText?_of_noText noText
    cases has with
    | entry placed =>
      have isText := texts_of_contact? read value (List.mem_of_getElem? placed)
      rw [unread] at isText
      cases isText
    | member among =>
      obtain ⟨⟨id, gotId, isId⟩, gotName⟩ := members_of_contact? read
      rcases List.mem_pair.mp known with rfl | rfl
      · cases Json.eq_of_member?_of_mem gotId among
        cases isId.symm.trans unread
      · cases (Json.read_of_mem gotName among).symm.trans unread

/-- A list with a spoiled contact is not read. -/
theorem contacts?_of_spoils {items : List Json} {item : Json} (listed : item ∈ items)
    (spoils : SpoilsContact item) : contacts? (.array items) = none := by
  rw [contacts?]
  induction items with
  | nil => nomatch listed
  | cons first rest inductionHypothesis =>
    rw [List.mapM_cons]
    rcases List.mem_cons.mp listed with rfl | later
    · rw [contact?_of_spoils spoils]
      rfl
    · rw [inductionHypothesis later]
      cases contact? first <;> rfl

/-- A page in an array has a list in the first place and a link in the second. -/
theorem fields_of_ofJson? {fields : List Json} {page : ContactPage}
    (read : ofJson? (.array fields) = some page) :
    ∃ data paging, fields = [data, paging] ∧ contacts? data = some page.contacts ∧
      paging? paging = some page.next := by
  match fields with
  | [] => nomatch read
  | [_] => nomatch read
  | [data, paging] =>
    obtain ⟨found, isFound, last⟩ := Option.bind_eq_some_iff.mp read
    obtain ⟨next, isNext, same⟩ := Option.bind_eq_some_iff.mp last
    cases same
    exact ⟨data, paging, rfl, isFound, isNext⟩
  | _ :: _ :: _ :: _ => nomatch read

/-- Where a page has data, they are its contacts. -/
theorem contacts?_of_hasField {record data : Json} {page : ContactPage}
    (read : ofJson? record = some page) (has : HasField "data" 0 data record) :
    contacts? data = some page.contacts := by
  cases has with
  | member among => exact Json.read_of_mem (members_of_ofJson? read).1 among
  | entry placed =>
    obtain ⟨value, _, rfl, isFound, _⟩ := fields_of_ofJson? read
    cases placed
    exact isFound

/-- Where a page has a paging record, its link is that of the page. -/
theorem paging?_of_hasField {record paging : Json} {page : ContactPage}
    (read : ofJson? record = some page) (has : HasField "paging" 1 paging record) :
    paging? paging = some page.next := by
  cases has with
  | member among => exact Json.read_of_mem (members_of_ofJson? read).2 among
  | entry placed =>
    obtain ⟨_, value, rfl, _, isNext⟩ := fields_of_ofJson? read
    cases placed
    exact isNext

/-- A paging with two links is not read. -/
theorem paging?_of_repeats {members : List (Option String × Json)}
    (repeats : Repeats "next" members) : paging? (.object members) = none := by
  rw [paging?_object, Json.field?_of_repeats repeats, ite_self]

/-- A spoiled page is not read. -/
theorem ofJson?_of_spoils {record : Json} (spoils : SpoilsPage record) :
    ofJson? record = none := by
  refine Option.eq_none_iff_forall_ne_some.mpr fun page read => ?_
  cases spoils with
  | contact has listed spoils =>
    cases (contacts?_of_hasField read has).symm.trans (contacts?_of_spoils listed spoils)
  | @noList _ data has noList =>
    have isList := contacts?_of_hasField read has
    cases data with
    | array items => exact noList items rfl
    | _ => nomatch isList
  | repeated known repeats =>
    obtain ⟨gotData, gotLink⟩ := members_of_ofJson? read
    rcases List.mem_pair.mp known with rfl | rfl
    · cases gotData.symm.trans (Json.field?_of_repeats repeats)
    · cases gotLink.symm.trans (Json.field?_of_repeats repeats)
  | repeatedLink has repeats =>
    cases (paging?_of_hasField read has).symm.trans (paging?_of_repeats repeats)

/-- A spoiled text does not parse. -/
theorem IsSpoiled.parse?_eq_none {text : String} (spoiled : IsSpoiled text) :
    parse? text = none := by
  cases spoiled with
  | malformed noValue =>
    have unread : Json.parse? text = none := by
      apply Option.eq_none_iff_forall_ne_some.mpr
      intro value read
      exact noValue value (Json.parse?_eq_some_iff.mp read)
    rw [parse?, unread]
    rfl
  | record spelled spoils =>
    rw [parse?, Json.parse?_of_spelledBy spelled]
    exact ofJson?_of_spoils spoils
  | further shape blank spells more =>
    rw [parse?]
    rcases Json.parse?_of_further shape blank spells more with failed | ⟨literal, read⟩
    · rw [failed]
      rfl
    · rw [read]
      rfl

end ContactPage

namespace GraphClient

open Http (Hop Network Trace)

variable {network : Network}

/-! ## A spoiled answer ends a fetch -/

namespace Visit

variable {visit : Visit} {visits : List Visit}

/-- A success that brings no page ends the last attempt of its visit. -/
theorem IsMade.ends_with {most status : Nat} {hop : Hop} {location : Option String} {body : String}
    (made : visit.IsMade network most) (asked : hop ∈ visit.hops)
    (answered : hop.reply network = .answer status location body)
    (success : Http.Status.isSuccess status = true) (noPage : ContactPage.parse? body = none) :
    visit.next = hop.number + 1 ∧ visit.outcome network = .error (.unexpected .page) := by
  obtain ⟨attempt, tried, inside⟩ := List.mem_flatMap.mp asked
  obtain ⟨earlier, later, shape⟩ := List.append_of_mem tried
  have isAttempt := made.anew earlier attempt later shape
  have range := Http.Status.isSuccess_iff.mp success
  have final : hop.next? network = none := by
    refine Option.eq_none_iff_forall_ne_some.mpr fun onward sent => ?_
    obtain ⟨_, _, _, _, replied, redirects, _⟩ := Hop.exists_answer_of_next? sent
    cases answered.symm.trans replied
    exact absurd range.2 (Nat.not_lt.mpr (Http.Status.range_of_isRedirect redirects).1)
  obtain rfl := isAttempt.eq_last inside final
  have lasting : ¬(attempt.last.reply network).IsTransient := by
    rw [answered, isTransient_answer_iff]
    omega
  obtain rfl : later = [] := by
    by_contra further
    refine lasting (made.again attempt ?_)
    rw [shape, List.dropLast_append_of_ne_nil (List.cons_ne_nil attempt later),
      List.dropLast_cons_of_ne_nil further]
    exact List.mem_append_right _ List.mem_cons_self
  constructor
  · rw [Visit.next, hops, shape, List.flatMap_append, List.length_append, ← Nat.add_assoc,
      next_attempt isAttempt, List.flatMap_cons, List.flatMap_nil, List.append_nil]
  · rw [outcome, shape, List.getLast?_append, List.getLast?_singleton, Option.some_or]
    dsimp only
    rw [result_of_final final, answered, read_of_success success, Http.Reply.page?, noPage,
      ite_self]

/-- A visit is the last one or leads to another. -/
theorem getLast?_or_links (linked : visits.IsChain (Links network)) (visited : visit ∈ visits) :
    visits.getLast? = some visit ∨ ∃ later, visit.Links network later := by
  induction visits with
  | nil => nomatch visited
  | cons first rest inductionHypothesis =>
    cases rest with
    | nil =>
      cases List.mem_singleton.mp visited
      exact .inl rfl
    | cons second rest =>
      obtain ⟨links, further⟩ := List.isChain_cons_cons.mp linked
      rcases List.mem_cons.mp visited with rfl | later
      · exact .inr ⟨second, links⟩
      · rw [List.getLast?_cons_cons]
        exact inductionHypothesis further later

/-- The hops of visits follow one another up to those of the last visit. -/
theorem length_trace_of_last {first : Nat} {last : Visit}
    (starts : ∀ visit ∈ visits.head?, visit.first = first)
    (linked : visits.IsChain (Links network)) (isLast : visits.getLast? = some last) :
    first + (visits.flatMap (·.trace network)).length = last.next := by
  induction visits generalizing first with
  | nil => nomatch isLast
  | cons visit rest inductionHypothesis =>
    rw [List.flatMap_cons, List.length_append, length_trace, ← starts visit rfl]
    cases rest with
    | nil =>
      cases isLast
      rfl
    | cons second rest =>
      obtain ⟨⟨_, _, _, _, _, next⟩, further⟩ := List.isChain_cons_cons.mp linked
      rw [List.getLast?_cons_cons] at isLast
      rw [← Nat.add_assoc]
      refine inductionHypothesis ?_ further isLast
      intro start head
      cases Option.mem_some.mp head
      exact next

end Visit

/-- A success that brings no page ends the fetch, which fails with it. -/
theorem Itinerary.ends_with (client : GraphClient) {most first status : Nat} {url : Url}
    {visits : List Visit} {visit : Visit} {hop : Hop} {location : Option String} {body : String}
    (itinerary : Itinerary network most url first visits) (visited : visit ∈ visits)
    (asked : hop ∈ visit.hops) (answered : hop.reply network = .answer status location body)
    (success : Http.Status.isSuccess status = true) (noPage : ContactPage.parse? body = none) :
    client.ending network visits = .error (.unexpected .page) ∧
      first + (visits.flatMap (·.trace network)).length = hop.number + 1 := by
  obtain ⟨final, failed⟩ :=
    (itinerary.made visit visited).ends_with asked answered success noPage
  have last : visits.getLast? = some visit := by
    rcases Visit.getLast?_or_links itinerary.linked visited with last | ⟨_, _, _, got, _⟩
    · exact last
    · cases got.symm.trans failed
  refine ⟨?_, ?_⟩
  · rw [ending, last]
    dsimp only
    rw [failed]
  · rw [Visit.length_trace_of_last (fun start head => (itinerary.starts start head).2)
      itinerary.linked last, final]

end GraphClient

namespace ContactPage

open GraphClient (readPage Itinerary Visit)

/-- A successful answer is read as the page in its body. -/
theorem readPage_of_success {status : Nat} (success : Http.Status.isSuccess status = true)
    (location : Option String) (text : String) :
    readPage ⟨status, location, text⟩ =
      match parse? text with
      | some page => .ok page
      | none => .error (.unexpected .page) := by
  have noError : GraphClient.statusError? status text = none := if_pos success
  cases decoded : parse? text with
  | none => simp only [readPage, noError, decoded]
  | some page => simp only [readPage, noError, decoded]

/-- **Pages are decoded completely or not at all.** Every text of an object for a page decodes to
exactly that page. A spoiled text does not decode, and a successful answer with it ends the fetch
that gets it: the fetch fails with the page, whatever the pages before it held, and asks for nothing
else. -/
theorem pages_decode_whole_or_fail :
    (∀ (page : ContactPage) (value : Json) (text : String), Shows page value →
      value.SpelledBy text → parse? text = some page ∧
        ∀ status location, Http.Status.isSuccess status = true →
          readPage ⟨status, location, text⟩ = .ok page) ∧
      ∀ text, IsSpoiled text → parse? text = none ∧
        (∀ status location, Http.Status.isSuccess status = true →
          readPage ⟨status, location, text⟩ = .error (.unexpected .page)) ∧
        ∀ (client : GraphClient) (network : Http.Network) (token : String) (trace : Http.Trace)
          (url : Url), client.firstPage? token = some url →
          ∃ visits, Itinerary network client.maxPages url trace.length visits ∧
            (client.fetch network token trace).2 = trace ++ visits.flatMap (·.trace network) ∧
            ∀ visit ∈ visits, ∀ hop ∈ visit.hops, ∀ status location,
              Http.Status.isSuccess status = true →
              hop.reply network = .answer status location text →
              (client.fetch network token trace).1 = .error (.unexpected .page) ∧
                (client.fetch network token trace).2.length = hop.number + 1 := by
  refine ⟨fun page value text shows spelled => ?_, fun text spoiled => ?_⟩
  · have decoded := parse?_of_shows shows spelled
    exact ⟨decoded, fun status location success => by rw [readPage_of_success success, decoded]⟩
  · have noPage := spoiled.parse?_eq_none
    refine ⟨noPage, fun status location success => by
      rw [readPage_of_success success, noPage], ?_⟩
    intro client network token trace url first
    obtain ⟨visits, itinerary, followed⟩ :=
      GraphClient.exists_itinerary client network client.maxPages url [] trace
    have fetched : client.fetch network token trace =
        ((client.ending network visits).map ([] ++ ·),
          trace ++ visits.flatMap (·.trace network)) := by
      rw [GraphClient.fetch, first]
      exact followed
    refine ⟨visits, itinerary, by rw [fetched], ?_⟩
    intro visit visited hop asked status location success answered
    obtain ⟨failed, final⟩ :=
      itinerary.ends_with client visited asked answered success noPage
    rw [fetched, failed, List.length_append]
    exact ⟨rfl, final⟩

/-- A page of two contacts with unknown members at every level. -/
def widePage : Json :=
  .ofMembers
    [("paging", .ofMembers [("cursors", .ofMembers []), ("next", .ofString "http://[::1]/2")]),
      ("data", .array
        [.ofMembers [("name", .ofString "A"), ("id", .ofString "1"), ("likes", .array [.null])],
          .ofMembers [("id", .ofString "2")]]),
      ("summary", .bool true)]

theorem shows_widePage :
    Shows ⟨[⟨"1", "A"⟩, ⟨"2", ""⟩], some "http://[::1]/2"⟩ widePage := by
  have first : ShowsContact ⟨"1", "A"⟩ (.ofMembers
      [("name", .ofString "A"), ("id", .ofString "1"), ("likes", .array [.null])]) :=
    .named ⟨[(some "likes", .array [.null])], .swap _ _ _, by simp⟩
  have second : ShowsContact ⟨"2", ""⟩ (.ofMembers [("id", .ofString "2")]) :=
    .nameless rfl ⟨[], .refl _, by simp⟩
  have link : ShowsLink (some "http://[::1]/2") [(some "paging",
      .ofMembers [("cursors", .ofMembers []), ("next", .ofString "http://[::1]/2")])] :=
    .link ⟨[(some "cursors", .ofMembers [])], .swap _ _ _, by simp⟩
  exact .object (.list (.cons first (.cons second .nil))) link
    ⟨[(some "summary", .bool true)], .swap _ _ _, by simp⟩

theorem written_widePage : widePage.Written := by
  have first : Json.Written (.ofMembers
      [("name", .ofString "A"), ("id", .ofString "1"), ("likes", .array [.null])]) :=
    .ofMembers (by simp [Json.Written.text, Json.Written.array, Json.Written.null])
  have second : Json.Written (.ofMembers [("id", .ofString "2")]) :=
    .ofMembers (by simp [Json.Written.text])
  have cursors : Json.Written (.ofMembers []) := .ofMembers (by simp)
  have link : Json.Written
      (.ofMembers [("cursors", .ofMembers []), ("next", .ofString "http://[::1]/2")]) :=
    .ofMembers (by simp [cursors, Json.Written.text])
  exact .ofMembers (by simp [link, first, second, Json.Written.array, Json.Written.bool])

/-- A page with a contact that has no identifier. -/
def namelessPage : Json :=
  .ofMembers [("data", .array [.ofMembers [("id", .ofString "1")],
    .ofMembers [("name", .ofString "A")]])]

theorem spoils_namelessPage : SpoilsPage namelessPage := by
  have spoils : SpoilsContact (.ofMembers [("name", .ofString "A")]) := .unidentified (by simp)
  exact .contact (.member List.mem_cons_self) (List.mem_cons_of_mem _ List.mem_cons_self) spoils

theorem written_namelessPage : namelessPage.Written := by
  have first : Json.Written (.ofMembers [("id", .ofString "1")]) :=
    .ofMembers (by simp [Json.Written.text])
  have second : Json.Written (.ofMembers [("name", .ofString "A")]) :=
    .ofMembers (by simp [Json.Written.text])
  exact .ofMembers (by simp [first, second, Json.Written.array])

/-- A network that answers every attempt with a text. -/
def answering (text : String) : Http.Network where
  reply _ _ := .answer 200 none text
  locate _ location := Url.parse? location

/-- A wide page decodes to its two contacts and its link, also between blanks. A page with a contact
that has no identifier ends the fetch with its first attempt. -/
theorem pages_decode_whole_or_fail_wideOrNameless :
    parse? (" " ++ widePage.text ++ "\n") =
        some ⟨[⟨"1", "A"⟩, ⟨"2", ""⟩], some "http://[::1]/2"⟩ ∧
      ((GraphClient.following 2).fetch (answering namelessPage.text) "t" []).1 =
        .error (.unexpected .page) ∧
      ((GraphClient.following 2).fetch (answering namelessPage.text) "t" []).2.length = 1 := by
  obtain ⟨decodes, fails⟩ := pages_decode_whole_or_fail
  have spelled : widePage.SpelledBy (" " ++ widePage.text ++ "\n") := by
    refine ⟨[' '], widePage.render, ['\n'], ?_, ?_, written_widePage.spells, ?_⟩
    · have space : " ".toList = [' '] := rfl
      have line : "\n".toList = ['\n'] := rfl
      rw [String.toList_append, String.toList_append, space, line, Json.text, String.toList_ofList,
        List.append_assoc]
    · exact List.forall_mem_singleton.mpr (by decide)
    · exact List.forall_mem_singleton.mpr (by decide)
  refine ⟨(decodes _ _ _ shows_widePage spelled).1, ?_⟩
  have asks : ((GraphClient.following 2).firstPage? "t").any (fun url =>
      decide ((url.scheme = "http" ∨ url.scheme = "https") ∧
        Http.isSendable url = true)) = true := by
    decide +kernel
  obtain ⟨url, first, askable⟩ := (Option.any_eq_true _ _).mp asks
  obtain ⟨_, _, fetches⟩ := fails _ (.record written_namelessPage.spelledBy spoils_namelessPage)
  obtain ⟨visits, itinerary, _, ends⟩ :=
    fetches (.following 2) (answering namelessPage.text) "t" [] url first
  cases visits with
  | nil =>
    have followed := itinerary.persists fun _ last => absurd last (Option.not_mem_none _)
    exact absurd followed (by decide)
  | cons visit rest =>
    obtain ⟨rfl, start⟩ := itinerary.starts visit rfl
    have reachable := of_decide_eq_true askable
    have made := itinerary.made visit List.mem_cons_self
    obtain ⟨attempt, more, shape⟩ := List.exists_cons_of_ne_nil (made.asked.mpr reachable)
    have begins := (made.anew [] attempt more shape).starts
    obtain ⟨further, hops⟩ := List.head?_eq_some_iff.mp begins
    have asked : ⟨⟨visit.url, .get, none⟩, visit.first⟩ ∈ visit.hops := by
      rw [Visit.hops, shape, List.flatMap_cons, hops]
      exact List.mem_append_left _ List.mem_cons_self
    have ended := ends visit List.mem_cons_self _ asked 200 none rfl rfl
    rwa [start] at ended

end ContactPage

end FriendGraph
