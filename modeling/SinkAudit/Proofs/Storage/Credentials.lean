import Mathlib.Data.List.Infix
import SinkAudit.Proofs.Settings.Accepted
import SinkAudit.Proofs.Storage.Adapter
import SinkAudit.Proofs.Text.Lines

/-!
# The credentials of an Azure client

An adapter of Azure is set up only with a connection string, or with an account and its key. The client
that it makes then never lacks what it was set up with: it reads the connection string, or it is sent to
the address of an account, and without a connection string it proves itself with the key.

The credentials of an account are a name and a key, or a connection string that has both. An endpoint of the
user's own replaces the address in a connection string, and then the name and the key have to be taken out of
it, by looking for their marks. That is guessing if a mark stands in the text twice, so the last part of the
result asks that each stands there once.

- `occurrences`, `valueAfter?_of_once`: a value behind a mark that stands in a text only once.
- `connectionText`, `NamesAccount`: connection strings, and the account that one names.
- `IsBaseOf`, `isBaseOf_dropSlashes`: an endpoint without the slashes at its end.
- `AccountUrl`, `AzureClient.MadeFor`: the addresses of an account, and the clients that settings allow.
- `azure_credentials_complete`: adapters and their clients.
-/

namespace SinkAudit

/-! ## Values behind a mark -/

/-- How often a mark stands in a text. -/
def occurrences (mark cs : List Char) : Nat := cs.tails.countP (mark.isPrefixOf ·)

theorem occurrences_cons (mark : List Char) (c : Char) (cs : List Char) :
    occurrences mark (c :: cs)
      = occurrences mark cs + if mark.isPrefixOf (c :: cs) then 1 else 0 := by
  unfold occurrences
  rw [List.tails_cons, List.countP_cons]

/-- A mark that stands somewhere is counted. -/
theorem occurrences_pos (mark before after : List Char) :
    0 < occurrences mark (before ++ (mark ++ after)) := by
  refine List.countP_pos_iff.mpr ⟨mark ++ after, (List.mem_tails _ _).mpr ?_, ?_⟩
  · exact List.suffix_append before (mark ++ after)
  · exact List.isPrefixOf_iff_prefix.mpr (List.prefix_append mark after)

/-- What stands right behind a mark is its value, up to a semicolon. -/
theorem valueAfter?_of_append {mark value after : List Char} (hvalue : value ≠ [])
    (hsemicolon : ';' ∉ value) (hafter : ∀ c ∈ after.head?, c = ';') :
    valueAfter? mark (mark ++ (value ++ after)) = some value := by
  have hnonempty : mark ++ (value ++ after) ≠ [] :=
    List.append_ne_nil_of_right_ne_nil _ (List.append_ne_nil_of_left_ne_nil hvalue _)
  obtain ⟨c, cs, hcs⟩ := List.exists_cons_of_ne_nil hnonempty
  -- the value ends before the semicolon of what follows, or at the end
  have htake : (value ++ after).takeWhile (· != ';') = value := by
    refine (span_of_stop (fun c hc => ?_) fun c hc => ?_).1
    · exact bne_iff_ne.mpr (ne_of_mem_of_not_mem hc hsemicolon)
    · rw [hafter c hc]
      rfl
  have hmark : mark.isPrefixOf (mark ++ (value ++ after)) = true :=
    List.isPrefixOf_iff_prefix.mpr (List.prefix_append _ _)
  have hgiven : (!value.isEmpty) = true := by simpa using hvalue
  rw [hcs, valueAfter?, ← hcs, List.drop_left, htake, hmark, hgiven]
  rfl

/-- Where a mark does not stand, its value is sought further on. -/
theorem valueAfter?_cons_of_absent {mark : List Char} {c : Char} {cs : List Char}
    (h : ¬ mark.isPrefixOf (c :: cs) = true) :
    valueAfter? mark (c :: cs) = valueAfter? mark cs := by
  rw [valueAfter?, Bool.eq_false_iff.mpr h]
  rfl

/-- If a mark stands in a text only once, the value behind it is found there. -/
theorem valueAfter?_of_once {mark before value after : List Char} (hvalue : value ≠ [])
    (hsemicolon : ';' ∉ value) (hafter : ∀ c ∈ after.head?, c = ';')
    (honce : occurrences mark (before ++ (mark ++ (value ++ after))) = 1) :
    valueAfter? mark (before ++ (mark ++ (value ++ after))) = some value := by
  induction before with
  | nil => exact valueAfter?_of_append hvalue hsemicolon hafter
  | cons c before ih =>
    -- the mark is counted further on, so it does not stand here
    have hpos := occurrences_pos mark before (value ++ after)
    rw [List.cons_append, occurrences_cons] at honce
    rw [List.cons_append]
    by_cases hhere : mark.isPrefixOf (c :: (before ++ (mark ++ (value ++ after)))) = true
    · rw [if_pos hhere] at honce
      omega
    · rw [if_neg hhere] at honce
      rw [valueAfter?_cons_of_absent hhere]
      exact ih honce

/-- A value that is found is not empty, has no semicolon and stands behind its mark. -/
theorem infix_of_valueAfter? {mark cs value : List Char} (h : valueAfter? mark cs = some value) :
    value ≠ [] ∧ ';' ∉ value ∧ mark ++ value <:+: cs := by
  induction cs with
  | nil => cases h
  | cons c cs ih =>
    rw [valueAfter?] at h
    split at h
    -- the mark stands here, and the value goes on to the next semicolon
    · next hhere =>
      obtain ⟨hmark, hgiven⟩ := Bool.and_eq_true_iff.mp hhere
      obtain ⟨rest, hrest⟩ := List.isPrefixOf_iff_prefix.mp hmark
      cases h
      refine ⟨by simpa using hgiven, fun hmem => ?_, ?_⟩
      · exact absurd (List.mem_takeWhile_imp hmem) (by decide)
      · rw [← hrest, List.drop_left]
        have hvalue : mark ++ rest.takeWhile (· != ';') <+: mark ++ rest :=
          (List.prefix_append_right_inj mark).mpr (List.takeWhile_prefix _)
        exact hvalue.isInfix
    · obtain ⟨hvalue, hsemicolon, hin⟩ := ih h
      exact ⟨hvalue, hsemicolon, hin.trans (List.suffix_cons c cs).isInfix⟩

/-! ## Connection strings -/

/-- The text of a connection string: segments of a key, an equals sign and a value. -/
def connectionText (segments : List (String × String)) : String :=
  ";".intercalate (segments.map fun segment => segment.1 ++ "=" ++ segment.2)

/-- Do the segments of a connection string name this account with this key, and no text in it look like
another name or key? -/
structure NamesAccount (segments : List (String × String)) (name key : String) : Prop where
  name_mem : ("AccountName", name) ∈ segments
  key_mem : ("AccountKey", key) ∈ segments
  values : ∀ segment ∈ segments, segment.2 ≠ "" ∧ ';' ∉ segment.2.toList
  name_once : occurrences "AccountName=".toList (connectionText segments).toList = 1
  key_once : occurrences "AccountKey=".toList (connectionText segments).toList = 1

/-- The value of a segment is found if no other text looks like the start of the segment. -/
theorem valueAfter?_connectionText {segments : List (String × String)} {label value : String}
    (hmem : (label, value) ∈ segments) (hvalue : value ≠ "") (hsemicolon : ';' ∉ value.toList)
    (honce : occurrences (label ++ "=").toList (connectionText segments).toList = 1) :
    valueAfter? (label ++ "=").toList (connectionText segments).toList = some value.toList := by
  have hpart : (label ++ "=").toList ++ value.toList
      ∈ (segments.map fun segment => segment.1 ++ "=" ++ segment.2).map String.toList := by
    rw [← String.toList_append]
    exact List.mem_map_of_mem (List.mem_map_of_mem hmem)
  -- the text is cut at the segment that is looked for
  obtain ⟨before, after, heq, hafter⟩ : ∃ before after,
      [';'].intercalate ((segments.map fun segment => segment.1 ++ "=" ++ segment.2).map String.toList)
          = before ++ ((label ++ "=").toList ++ value.toList ++ after)
        ∧ ∀ c ∈ after.head?, c = ';' :=
    Text.intercalate_eq_of_mem hpart
  have htext : (connectionText segments).toList
      = before ++ ((label ++ "=").toList ++ (value.toList ++ after)) := by
    rw [connectionText, String.toList_intercalate, ← List.append_assoc _ value.toList]
    exact heq
  rw [htext] at honce ⊢
  refine valueAfter?_of_once (fun hnil => hvalue ?_) hsemicolon hafter honce
  exact String.toList_eq_nil_iff.mp hnil

namespace NamesAccount

variable {segments : List (String × String)} {name key : String}

/-- The name that a connection string holds is found in it. -/
theorem connectionAccount?_eq (h : NamesAccount segments name key) :
    connectionAccount? (connectionText segments) = some name := by
  obtain ⟨hvalue, hsemicolon⟩ := h.values _ h.name_mem
  have hfound := valueAfter?_connectionText h.name_mem hvalue hsemicolon h.name_once
  unfold connectionAccount?
  rw [show "AccountName=".toList = ("AccountName" ++ "=").toList from rfl, hfound, Option.map_some,
    String.ofList_toList]

/-- So is the key. -/
theorem connectionKey?_eq (h : NamesAccount segments name key) :
    connectionKey? (connectionText segments) = some key := by
  obtain ⟨hvalue, hsemicolon⟩ := h.values _ h.key_mem
  have hfound := valueAfter?_connectionText h.key_mem hvalue hsemicolon h.key_once
  unfold connectionKey?
  rw [show "AccountKey=".toList = ("AccountKey" ++ "=").toList from rfl, hfound, Option.map_some,
    String.ofList_toList]

end NamesAccount

/-! ## Endpoints -/

/-- Is a text an endpoint without the slashes at its end, which still has a scheme and begins to name a
host? -/
structure IsBaseOf (base endpoint : String) : Prop where
  slashes : ∃ n, endpoint.toList = base.toList ++ List.replicate n '/'
  bare : base.toList.getLast? ≠ some '/'
  host : ∃ (scheme : String) (c : Char) (rest : List Char),
    base.toList = scheme.toList ++ c :: rest ∧ (scheme = "http://" ∨ scheme = "https://")
      ∧ (c.isAlphanum = true ∨ c = '.' ∨ c = '-')

/-- Only slashes are dropped, and all of them at the end. -/
theorem dropSlashes_spec (s : String) :
    (∃ n, s.toList = (dropSlashes s).toList ++ List.replicate n '/')
      ∧ (dropSlashes s).toList.getLast? ≠ some '/' := by
  unfold dropSlashes
  rw [String.toList_ofList]
  constructor
  · -- read backwards, the text is the slashes and then what is left
    have hslashes : s.toList.reverse.takeWhile (· == '/')
        = List.replicate (s.toList.reverse.takeWhile (· == '/')).length '/' :=
      List.eq_replicate_of_mem fun c hc => eq_of_beq (List.mem_takeWhile_imp (p := (· == '/')) hc)
    refine ⟨(s.toList.reverse.takeWhile (· == '/')).length, ?_⟩
    rw [← List.reverse_replicate, ← hslashes, ← List.reverse_append,
      List.takeWhile_append_dropWhile, List.reverse_reverse]
  · rw [List.getLast?_reverse]
    intro hlast
    have hstop := List.head?_dropWhile_not (· == '/') s.toList.reverse
    rw [hlast] at hstop
    cases hstop

/-- What a text begins with stays if it ends in another character. -/
theorem exists_dropSlashes_eq {s : String} {start rest : List Char} {c : Char} (hc : c ≠ '/')
    (hs : s.toList = start ++ c :: rest) :
    ∃ rest', (dropSlashes s).toList = start ++ c :: rest' := by
  obtain ⟨⟨n, hsplit⟩, -⟩ := dropSlashes_spec s
  rw [hs] at hsplit
  -- if what is left ended before the character, that would be one of the slashes
  rcases List.append_eq_append_iff.mp hsplit with ⟨more, hbase, htail⟩ | ⟨more, -, htail⟩
  · cases more with
    | nil =>
      rw [List.nil_append] at htail
      have hmem : c ∈ List.replicate n '/' := htail ▸ List.mem_cons_self
      exact absurd (List.eq_of_mem_replicate hmem) hc
    | cons c' more =>
      injection htail with hhead _
      exact ⟨more, hhead ▸ hbase⟩
  · have hmem : c ∈ List.replicate n '/' := htail ▸ List.mem_append_right _ List.mem_cons_self
    exact absurd (List.eq_of_mem_replicate hmem) hc

/-- A text that begins like an address does so without the slashes at its end. -/
theorem isBaseOf_dropSlashes {endpoint : String} (h : isEndpoint endpoint = true) :
    IsBaseOf (dropSlashes endpoint) endpoint := by
  -- the host is not empty, so that the slashes which are dropped are behind it and not those of the scheme
  obtain ⟨hslashes, hbare⟩ := dropSlashes_spec endpoint
  obtain ⟨cs, more, ⟨scheme, host, port, path, rfl, hscheme, hnonempty, hhost, -, -⟩, hcs⟩ :
      ∃ cs more, IsServiceAddress cs ∧ endpoint.toList = cs ++ more := by
    rcases isEndpoint_iff.mp h with haddress | ⟨cs, haddress, hcs⟩
    · exact ⟨_, [], haddress, (List.append_nil _).symm⟩
    · exact ⟨cs, ['\n'], haddress, hcs⟩
  obtain ⟨c, host, rfl⟩ := List.exists_cons_of_ne_nil hnonempty
  have hc := hhost c List.mem_cons_self
  have hslash : c ≠ '/' := by
    rintro rfl
    exact absurd hc (by decide)
  have hstart : endpoint.toList = scheme.toList ++ c :: (host ++ (port ++ path) ++ more) := by
    rw [hcs, List.append_assoc, List.cons_append, List.cons_append]
  obtain ⟨rest, hrest⟩ := exists_dropSlashes_eq hslash hstart
  exact ⟨hslashes, hbare, scheme, c, rest, hrest, hscheme, hc⟩

/-- An endpoint that accepted settings hold is an address. -/
theorem Settings.isEndpoint_blobEndpoint {d : SettingsDraft} {s : Settings}
    (h : Settings.ofDraft d = .ok s) {endpoint : String} (hgiven : s.blobEndpoint = some endpoint)
    (hnonempty : endpoint ≠ "") : isEndpoint endpoint = true := by
  obtain ⟨-, -, -, hblob, -, -, heq⟩ := ofDraft_eq_ok_iff.mp h
  have hdraft : d.blobEndpoint = some endpoint :=
    (congrArg Settings.blobEndpoint heq).symm.trans hgiven
  exact (checkEndpoint_eq_ok_iff.mp hblob endpoint hdraft).resolve_left hnonempty

/-! ## Clients -/

/-- What is given is a text that is not empty. -/
theorem isGiven_iff {o : Option String} : isGiven o = true ↔ ∃ text, o = some text ∧ text ≠ "" := by
  cases o with
  | none => exact iff_of_false nofun nofun
  | some text =>
    unfold isGiven
    rw [bne_iff_ne]
    constructor
    · exact fun h => ⟨text, rfl, h⟩
    · rintro ⟨_, ⟨⟩, h⟩
      exact h

/-- The settings that are looked at are those that are given. -/
theorem filter_eq_of_isGiven (o : Option String) :
    o.filter (· != "") = if isGiven o then o else none := by
  cases o with
  | none => rfl
  | some text => rw [Option.filter_some, isGiven]

/-- The addresses of an account: below an endpoint of its own, or in the public cloud. -/
inductive AccountUrl (s : Settings) (account : String) : String → Prop
  | ownEndpoint {endpoint base : String} : s.blobEndpoint = some endpoint → endpoint ≠ "" →
      IsBaseOf base endpoint → AccountUrl s account (base ++ "/" ++ account)
  | publicCloud : isGiven s.blobEndpoint = false →
      AccountUrl s account ("https://" ++ account ++ ".blob.core.windows.net")

/-- An endpoint that accepted settings hold makes the address of every account. -/
theorem accountUrl_blobEndpoint {d : SettingsDraft} {s : Settings} (h : Settings.ofDraft d = .ok s)
    (hgiven : isGiven s.blobEndpoint = true) :
    ∃ base, (s.blobEndpoint.filter (· != "")).map dropSlashes = some base
      ∧ ∀ account, AccountUrl s account (base ++ "/" ++ account) := by
  obtain ⟨endpoint, hendpoint, hnonempty⟩ := isGiven_iff.mp hgiven
  refine ⟨dropSlashes endpoint, ?_, fun account => ?_⟩
  · rw [filter_eq_of_isGiven, if_pos hgiven, hendpoint, Option.map_some]
  · exact .ownEndpoint hendpoint hnonempty
      (isBaseOf_dropSlashes (Settings.isEndpoint_blobEndpoint h hendpoint hnonempty))

/-- Does a text hold a value behind a mark, up to a semicolon at most? -/
def Holds (text mark value : String) : Prop :=
  value ≠ "" ∧ ';' ∉ value.toList ∧ mark.toList ++ value.toList <:+: text.toList

theorem holds_of_valueAfter? {text mark value : String}
    (h : (valueAfter? mark.toList text.toList).map String.ofList = some value) :
    Holds text mark value := by
  obtain ⟨cs, hfound, rfl⟩ := Option.map_eq_some_iff.mp h
  obtain ⟨hvalue, hsemicolon, hin⟩ := infix_of_valueAfter? hfound
  refine ⟨fun hempty => hvalue ?_, ?_, ?_⟩
  · exact String.ofList_eq_empty_iff.mp hempty
  · rwa [String.toList_ofList]
  · rwa [String.toList_ofList]

/-- The clients that settings allow. -/
inductive AzureClient.MadeFor (s : Settings) : AzureClient → Prop
  /-- The package of the service reads the connection string. -/
  | connection {text : String} : s.connectionString = some text → text ≠ "" →
      isGiven s.blobEndpoint = false ∨ connectionAccount? text = none →
      MadeFor s (.ofConnection text s.timeout)
  /-- The account that a connection string names is sought at an endpoint of its own, with the key that
  stands there as well. -/
  | namedKey {text name key url : String} : s.connectionString = some text →
      isGiven s.blobEndpoint = true → Holds text "AccountName=" name →
      Holds text "AccountKey=" key → AccountUrl s name url →
      MadeFor s (.ofAccount url (.account name key) s.timeout)
  /-- The connection string names an account, but no key. -/
  | namedOnly {text name url : String} : s.connectionString = some text →
      isGiven s.blobEndpoint = true → Holds text "AccountName=" name →
      connectionKey? text = none → AccountUrl s name url →
      MadeFor s (.ofAccount url .none s.timeout)
  /-- Without a connection string, the account proves itself with its key. -/
  | accountKey {name key url : String} : isGiven s.connectionString = false →
      s.account = some name → name ≠ "" → s.accountKey = some key → key ≠ "" →
      AccountUrl s name url → MadeFor s (.ofAccount url (.key (some key)) s.timeout)

namespace AzureClient

variable {d : SettingsDraft} {s : Settings} {text name : String}

/-- With a connection string that names an account and an endpoint of its own, the client takes the
account and the key out of the connection string. -/
theorem ofSettings_of_named (h : Settings.ofDraft d = .ok s)
    (hconnection : s.connectionString = some text) (hgiven : text ≠ "")
    (hendpoint : isGiven s.blobEndpoint = true) (hname : connectionAccount? text = some name) :
    ∃ url, AccountUrl s name url
      ∧ ofSettings s
        = .ofAccount url ((connectionKey? text).elim .none (.account name ·)) s.timeout := by
  obtain ⟨base, hbase, hurl⟩ := accountUrl_blobEndpoint h hendpoint
  have hlooked : s.connectionString.filter (· != "") = some text := by
    rw [filter_eq_of_isGiven, hconnection, if_pos (isGiven_iff.mpr ⟨text, rfl, hgiven⟩)]
  refine ⟨_, hurl name, ?_⟩
  unfold ofSettings
  simp only [hbase, hlooked, hname]
  cases connectionKey? text with
  | none => rfl
  | some key => rfl

/-- A connection string that does not name an account, or has no endpoint to go with it, is left to the
package of the service. -/
theorem ofSettings_of_unnamed (hconnection : s.connectionString = some text) (hgiven : text ≠ "")
    (h : isGiven s.blobEndpoint = false ∨ connectionAccount? text = none) :
    ofSettings s = .ofConnection text s.timeout := by
  have hlooked : s.connectionString.filter (· != "") = some text := by
    rw [filter_eq_of_isGiven, hconnection, if_pos (isGiven_iff.mpr ⟨text, rfl, hgiven⟩)]
  unfold ofSettings
  rw [hlooked]
  dsimp only
  rcases h with hendpoint | hname
  · rw [filter_eq_of_isGiven, hendpoint, if_neg Bool.false_ne_true, Option.map_none]
  · rw [hname]
    split
    · next hnone => cases hnone
    · rfl

/-- Without a connection string, the client is made from the account and its key. -/
theorem ofSettings_of_account (h : Settings.ofDraft d = .ok s)
    (hconnection : isGiven s.connectionString = false) (hname : s.account = some name) :
    ∃ url, AccountUrl s name url ∧ ofSettings s = .ofAccount url (.key s.accountKey) s.timeout := by
  have hlooked : s.connectionString.filter (· != "") = none := by
    rw [filter_eq_of_isGiven, hconnection, if_neg Bool.false_ne_true]
  unfold ofSettings
  rw [hlooked, hname]
  dsimp only [Option.getD_some]
  -- without an endpoint of its own the account is one of the public cloud
  cases hendpoint : isGiven s.blobEndpoint with
  | false =>
    rw [filter_eq_of_isGiven, hendpoint, if_neg Bool.false_ne_true, Option.map_none]
    exact ⟨_, .publicCloud hendpoint, rfl⟩
  | true =>
    obtain ⟨base, hbase, hurl⟩ := accountUrl_blobEndpoint h hendpoint
    rw [hbase]
    exact ⟨_, hurl name, rfl⟩

/-- Accepted settings with credentials make a client that they allow. -/
theorem madeFor_ofSettings (h : Settings.ofDraft d = .ok s)
    (hgiven : isGiven s.connectionString = true
      ∨ isGiven s.account = true ∧ isGiven s.accountKey = true) :
    (ofSettings s).MadeFor s := by
  cases hconnection : isGiven s.connectionString with
  | false =>
    obtain ⟨haccount, hkey⟩ := hgiven.resolve_left (by rw [hconnection]; exact Bool.false_ne_true)
    obtain ⟨name, hname, hnonempty⟩ := isGiven_iff.mp haccount
    obtain ⟨key, hkey, hkeyGiven⟩ := isGiven_iff.mp hkey
    obtain ⟨url, hurl, hclient⟩ := ofSettings_of_account h hconnection hname
    rw [hclient, hkey]
    exact .accountKey hconnection hname hnonempty hkey hkeyGiven hurl
  | true =>
    obtain ⟨text, htext, hnonempty⟩ := isGiven_iff.mp hconnection
    by_cases hleft : isGiven s.blobEndpoint = false ∨ connectionAccount? text = none
    · rw [ofSettings_of_unnamed htext hnonempty hleft]
      exact .connection htext hnonempty hleft
    · -- both an endpoint and a name, so only the key is open
      obtain ⟨hendpoint, hnamed⟩ := not_or.mp hleft
      rw [Bool.not_eq_false] at hendpoint
      obtain ⟨name, hname⟩ := Option.ne_none_iff_exists'.mp hnamed
      obtain ⟨url, hurl, hclient⟩ := ofSettings_of_named h htext hnonempty hendpoint hname
      rw [hclient]
      cases hkey : connectionKey? text with
      | none => exact .namedOnly htext hendpoint (holds_of_valueAfter? hname) hkey hurl
      | some key =>
        exact .namedKey htext hendpoint (holds_of_valueAfter? hname) (holds_of_valueAfter? hkey) hurl

end AzureClient

/-! ## Adapters -/

/-- An adapter of Azure is set up if there is a connection string, or an account with its key. -/
theorem Adapter.ofSettings_azure (s : Settings) :
    ofSettings { s with backend := .azure }
      = if isGiven s.connectionString = true
            ∨ isGiven s.account = true ∧ isGiven s.accountKey = true then
          .ok ⟨.azure, { s with backend := .azure }, false⟩
        else .error .noAzureCredentials := by
  unfold ofSettings Settings.hasAccount
  cases isGiven s.connectionString <;> cases isGiven s.account <;> cases isGiven s.accountKey <;> rfl

/-- An adapter of Azure, set up from any accepted settings without a client, is refused as having a
value that will not do exactly if neither a connection string nor an account with its key is given.
Otherwise the first question makes a client that the settings allow, and asks it unless the package
refuses to make it. If there is an endpoint and the connection string names an account with its key, and
nothing in it looks like another, then the client is sent to that account below the endpoint, with exactly
that name and key. -/
theorem azure_credentials_complete {d : SettingsDraft} {s : Settings}
    (h : Settings.ofDraft d = .ok s) :
    if isGiven s.connectionString = true
        ∨ isGiven s.account = true ∧ isGiven s.accountKey = true then
      ∃ a client, Adapter.ofSettings { s with backend := .azure } = .ok a
        ∧ (∀ installed reply bucket refusal, a.needed.all installed = true →
            (a.ask installed reply bucket refusal).2.1
              = .openAzure client
                :: if refusal.isNone then [.selectContainer bucket, .containerExists] else [])
        ∧ client.MadeFor s
        ∧ ∀ segments name key, isGiven s.blobEndpoint = true →
            s.connectionString = some (connectionText segments) → NamesAccount segments name key →
            ∃ url, AccountUrl s name url
              ∧ client = .ofAccount url (.account name key) s.timeout
    else
      Adapter.ofSettings { s with backend := .azure } = .error .noAzureCredentials
        ∧ (Failure.setup .noAzureCredentials).kind = .invalidValue := by
  rw [Adapter.ofSettings_azure]
  split
  · next hgiven =>
    refine ⟨_, .ofSettings s, rfl, ?_, AzureClient.madeFor_ofSettings h hgiven, ?_⟩
    · intro installed reply bucket refusal hinstalled
      cases refusal with
      | none =>
        rw [Adapter.ask_of_installed hinstalled _ _ (.inr rfl)]
        rfl
      | some fault =>
        rw [Adapter.ask_of_refused hinstalled rfl]
        rfl
    · intro segments name key hendpoint hconnection hnamed
      have hname := hnamed.connectionAccount?_eq
      have hnonempty : connectionText segments ≠ "" := by
        intro hempty
        rw [hempty] at hname
        cases hname
      obtain ⟨url, hurl, hclient⟩ :=
        AzureClient.ofSettings_of_named h hconnection hnonempty hendpoint hname
      rw [hnamed.connectionKey?_eq] at hclient
      exact ⟨url, hurl, hclient⟩
  · exact ⟨rfl, rfl⟩

/-- The account of a connection string at an endpoint of its own, with equals signs at the end of its
key and slashes at the end of the endpoint. -/
theorem azure_credentials_complete_ownEndpoint :
    let segments := [("Protocol", "http"), ("AccountName", "acme"), ("AccountKey", "a2V5=="),
      ("Suffix", "core.example")]
    let draft : SettingsDraft :=
      { connectionString := some (connectionText segments)
        blobEndpoint := some "https://blob.example:10000//" }
    ∃ s, Settings.ofDraft draft = .ok s ∧ NamesAccount segments "acme" "a2V5=="
      ∧ ∃ a url, Adapter.ofSettings { s with backend := .azure } = .ok a
        ∧ AccountUrl s "acme" url
        ∧ (a.ask (fun _ => true) (.answered (.scalar .null)) "lake").2.1
          = [.openAzure (.ofAccount url (.account "acme" "a2V5==") s.timeout),
              .selectContainer "lake", .containerExists] := by
  intro segments draft
  have hnamed : NamesAccount segments "acme" "a2V5==" :=
    ⟨by decide, by decide, by decide, by decide, by decide⟩
  have haccepted : ∃ s, Settings.ofDraft draft = .ok s := ⟨_, rfl⟩
  obtain ⟨s, h⟩ := haccepted
  obtain ⟨-, -, -, -, -, -, heq⟩ := Settings.ofDraft_eq_ok_iff.mp h
  have hconnection : s.connectionString = some (connectionText segments) :=
    congrArg Settings.connectionString heq
  have hendpoint : isGiven s.blobEndpoint = true := by
    rw [heq]
    rfl
  have hcomplete := azure_credentials_complete h
  rw [if_pos (.inl (by rw [hconnection]; decide))] at hcomplete
  obtain ⟨a, client, ha, hcalls, -, hclient⟩ := hcomplete
  obtain ⟨url, hurl, rfl⟩ := hclient segments "acme" "a2V5==" hendpoint hconnection hnamed
  refine ⟨s, h, hnamed, a, url, ha, hurl, hcalls _ _ "lake" none ?_⟩
  exact List.all_eq_true.mpr fun _ _ => rfl

end SinkAudit
