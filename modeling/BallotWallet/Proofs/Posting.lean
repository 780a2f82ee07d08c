import BallotWallet.Proofs.Batches
import BallotWallet.Proofs.Reading
import BallotWallet.Proofs.Recording
import Mathlib.Data.List.DropRight

/-!
# Where requests go

A client of a node over HTTP makes one request for each thing that it is asked, and none for an
empty batch. The request goes to the address of the node and the path of what is asked for; if the
setting says so, submissions go there over the secure scheme. The plain scheme is looked for in
lower case and with both slashes behind its colon, so that addresses which spell it in another way,
or which name no host, keep it.
-/

namespace BallotWallet.Ledger

open BallotWallet.Action
open Text (CodePoint)

/-! ## Schemes -/

/-- A URL has a scheme: its name, in any mix of upper and lower case, and a colon stand in front,
white space aside, which is not sent. -/
def HasScheme (scheme : String) (url : Text) : Prop :=
  ∃ (spelt : List Char) (rest : List CodePoint),
    url.points.dropWhile (CodePoint.isChar Text.isBlank) = spelt.map .char ++ .char ':' :: rest ∧
      spelt.map Char.toLower = scheme.toList

/-- The plain scheme as the client looks for it. -/
def plainMark : Text := "http://"

/-- An address in which the plain scheme is spelt as the client looks for it, with a host behind. -/
def IsPlain (address : Text) : Prop :=
  ∃ host : Text, address = plainMark ++ host ∧ ∃ p ∈ host.points, p ≠ .char '/'

/-- An address that keeps the plain scheme. -/
inductive IsStray (address : Text) : Prop
  /-- There is no host, so that the slashes of the scheme go with those at the end. -/
  | hostless : (∀ p ∈ address.points, p = .char '/') → IsStray address
  /-- The scheme is not spelt as the client looks for it. -/
  | respelt : schemeMark.points <:+: address.points → HasScheme "http" address →
      ¬IsPlain address → IsStray address

/-! ## Slashes at the end -/

section Slashes

variable {address : Text}

theorem exists_slashes (address : Text) :
    ∃ slashes, address.points = (trimAddress address).points ++ slashes ∧
      ∀ p ∈ slashes, p = .char '/' := by
  refine ⟨address.points.rtakeWhile (· == .char '/'), ?_, ?_⟩
  · exact List.rdropWhile_append_rtakeWhile.symm
  · intro p hp
    exact beq_iff_eq.mp (List.mem_rtakeWhile_imp (p := (· == CodePoint.char '/')) hp)

theorem trimAddress_ne_slash (address : Text) (ps : List CodePoint) :
    (trimAddress address).points ≠ ps ++ [.char '/'] := by
  intro h
  have hne : address.points.rdropWhile (· == .char '/') ≠ [] := by
    intro hnil
    exact List.append_ne_nil_of_right_ne_nil ps (List.cons_ne_nil _ _) (h.symm.trans hnil)
  refine List.rdropWhile_last_not (· == .char '/') address.points hne (beq_iff_eq.mpr ?_)
  have hconcat := List.append_ne_nil_of_right_ne_nil ps (List.cons_ne_nil (CodePoint.char '/') [])
  have hlast := List.getLast_congr hne hconcat h
  exact hlast.trans (List.getLast_append_singleton ps)

/-- Slashes do not belong to a scheme, nor does what follows them. -/
theorem hasScheme_append_slash {scheme : String} (hscheme : '/' ∉ scheme.toList)
    (ps qs : List CodePoint) :
    HasScheme scheme ⟨ps ++ .char '/' :: qs⟩ ↔ HasScheme scheme ⟨ps⟩ := by
  have hblank : CodePoint.isChar Text.isBlank (.char '/') = false := by decide
  have hspelt : ∀ {spelt : List Char}, spelt.map Char.toLower = scheme.toList → '/' ∉ spelt :=
    fun h hmem => hscheme (h ▸ List.mem_map.mpr ⟨'/', hmem, rfl⟩)
  have hdrop : (ps ++ .char '/' :: qs).dropWhile (CodePoint.isChar Text.isBlank) =
      ps.dropWhile (CodePoint.isChar Text.isBlank) ++ .char '/' :: qs := by
    rw [List.dropWhile_append]
    split
    · rename_i hnil
      rw [List.isEmpty_iff.mp hnil, List.dropWhile_cons_of_neg (by rw [hblank]; decide)]
      rfl
    · rfl
  unfold HasScheme
  rw [hdrop]
  dsimp only
  constructor
  · rintro ⟨spelt, rest, heq, hlower⟩
    have hfree : CodePoint.char '/' ∉ spelt.map CodePoint.char ++ [.char ':'] := by
      intro hmem
      rcases List.mem_append.mp hmem with hmem | hmem
      · obtain ⟨c, hc, hslash⟩ := List.mem_map.mp hmem
        exact hspelt hlower (CodePoint.char.inj hslash ▸ hc)
      · cases List.mem_singleton.mp hmem
    rw [← List.singleton_append (l := rest), ← List.append_assoc] at heq
    obtain ⟨between, hkept, hrest⟩ | ⟨between, hkept, hrest⟩ := List.append_eq_append_iff.mp heq
    · cases between with
      | nil =>
          rw [List.append_nil] at hkept
          exact ⟨spelt, [], by simpa using hkept.symm, hlower⟩
      | cons p between =>
          obtain ⟨rfl, _⟩ := List.cons.inj hrest
          exact absurd (hkept ▸ List.mem_append_right _ List.mem_cons_self) hfree
    · exact ⟨spelt, between, by simpa using hkept, hlower⟩
  · rintro ⟨spelt, rest, heq, hlower⟩
    exact ⟨spelt, rest ++ .char '/' :: qs, by rw [heq]; simp, hlower⟩

theorem hasScheme_trimAddress {scheme : String} (hscheme : '/' ∉ scheme.toList) :
    HasScheme scheme (trimAddress address) ↔ HasScheme scheme address := by
  obtain ⟨slashes, heq, hslashes⟩ := exists_slashes address
  have htext : address = ⟨(trimAddress address).points ++ slashes⟩ := congrArg Text.mk heq
  conv_rhs => rw [htext]
  cases slashes with
  | nil => rw [List.append_nil]
  | cons p slashes =>
      obtain rfl := hslashes p List.mem_cons_self
      exact (hasScheme_append_slash hscheme _ _).symm

/-- What is trimmed begins with the plain scheme just if the scheme was followed by a host. -/
theorem prefix_trimAddress_iff :
    plainMark.points <+: (trimAddress address).points ↔ IsPlain address := by
  obtain ⟨slashes, heq, hslashes⟩ := exists_slashes address
  constructor
  · rintro ⟨host, hhost⟩
    refine ⟨⟨host ++ slashes⟩, ?_, ?_⟩
    · refine congrArg Text.mk ?_
      rw [heq, ← hhost, List.append_assoc]
    · rcases List.eq_nil_or_concat host with rfl | ⟨front, last, rfl⟩
      · exact absurd hhost.symm (trimAddress_ne_slash address (Text.ofString "http:/").points)
      · refine ⟨last, by simp, ?_⟩
        rintro rfl
        exact trimAddress_ne_slash address (plainMark.points ++ front) (by
          rw [← hhost, List.append_assoc, List.concat_eq_append])
  · rintro ⟨host, rfl, p, hp, hkept⟩
    have hmark : plainMark.points <+: plainMark.points ++ host.points := ⟨_, rfl⟩
    have htrim : (trimAddress (plainMark ++ host)).points <+: plainMark.points ++ host.points :=
      ⟨slashes, heq.symm⟩
    rcases List.prefix_or_prefix_of_prefix hmark htrim with h | ⟨rest, hrest⟩
    · exact h
    · -- otherwise the host would be among the slashes at the end
      refine absurd (hslashes p ?_) hkept
      have hsame : plainMark.points ++ host.points = _ := heq
      rw [← hrest, List.append_assoc] at hsame
      rw [← List.append_cancel_left hsame]
      exact List.mem_append_right _ hp

/-- A path does not make up for the slashes that an address lacks. -/
theorem prefix_append_path_iff {path : Text} {p : CodePoint} {ps : List CodePoint}
    (hpath : path.points = .char '/' :: p :: ps) (hp : p ≠ .char '/') :
    plainMark.points <+: (trimAddress address ++ path).points ↔ IsPlain address := by
  rw [← prefix_trimAddress_iff]
  refine ⟨fun h => ?_, fun h => h.trans ⟨_, rfl⟩⟩
  have htrim : (trimAddress address).points <+: (trimAddress address ++ path).points := ⟨_, rfl⟩
  rcases List.prefix_or_prefix_of_prefix h htrim with hmark | ⟨rest, hrest⟩
  · exact hmark
  · have hbehind : rest <+: .char '/' :: p :: ps := by
      rw [← hpath]
      refine (List.prefix_append_right_inj (trimAddress address).points).mp ?_
      rw [hrest]
      exact h
    cases rest with
    | nil =>
        rw [List.append_nil] at hrest
        exact hrest ▸ List.prefix_rfl
    | cons q rest =>
        obtain ⟨rfl, htail⟩ := List.cons_prefix_cons.mp hbehind
        cases rest with
        | nil =>
            have hsplit : plainMark.points = (Text.ofString "http:/").points ++ [.char '/'] := rfl
            have htrimmed := List.append_cancel_right (hrest.trans hsplit)
            exact absurd htrimmed (trimAddress_ne_slash address (Text.ofString "http:").points)
        | cons q rest =>
            obtain ⟨rfl, _⟩ := List.cons_prefix_cons.mp htail
            -- a slash of the mark is its last point or stands in front of another slash
            have hnext : ∀ i : Fin 7, plainMark.points[i.val]? = some (.char '/') →
                ∀ q ∈ plainMark.points[i.val + 1]?, q = .char '/' := by
              decide
            have hlength : (trimAddress address).points.length < 7 := by
              have := congrArg List.length hrest
              rw [List.length_append, List.length_cons, List.length_cons] at this
              have hseven : plainMark.points.length = 7 := rfl
              omega
            refine absurd (hnext ⟨_, hlength⟩ ?_ q ?_) hp
            · rw [← hrest]
              simp
            · rw [← hrest]
              simp

end Slashes

/-! ## The secure scheme -/

theorem secured_cases (url : Text) :
    (∃ behind : Text, url = plainMark ++ behind ∧ secured url = "https://" ++ behind) ∨
      ¬plainMark.points <+: url.points ∧ secured url = url := by
  unfold secured
  dsimp only
  split
  · rename_i hprefix
    obtain ⟨behind, hbehind⟩ := List.isPrefixOf_iff_prefix.mp hprefix
    refine .inl ⟨⟨behind⟩, congrArg Text.mk hbehind.symm, ?_⟩
    rw [← hbehind, List.drop_left]
  · rename_i hprefix
    exact .inr ⟨fun h => hprefix (List.isPrefixOf_iff_prefix.mpr h), rfl⟩

theorem not_hasScheme_secure (behind : Text) : ¬HasScheme "http" ("https://" ++ behind) := by
  rintro ⟨spelt, rest, heq, hlower⟩
  have hlength : (spelt.map CodePoint.char).length = 4 := by
    rw [List.length_map, ← List.length_map (f := Char.toLower), hlower]
    rfl
  -- the colon would stand where the scheme has its fifth letter
  have hfifth : (spelt.map CodePoint.char ++ .char ':' :: rest)[4]? = some (.char 's') :=
    (congrArg (·[4]?) heq).symm.trans rfl
  rw [List.getElem?_append_right hlength.le, hlength] at hfifth
  cases hfifth

theorem hasScheme_plain (behind : Text) : HasScheme "http" (plainMark ++ behind) :=
  ⟨['h', 't', 't', 'p'], .char '/' :: .char '/' :: behind.points, rfl, rfl⟩

theorem occurs_schemeMark_iff {ps : List CodePoint} :
    occurs schemeMark.points ps = true ↔ schemeMark.points <:+: ps := by
  induction ps with
  | nil => exact iff_of_false (by decide) (by simp; decide)
  | cons p ps ih =>
      rw [occurs, Bool.or_eq_true, List.isPrefixOf_iff_prefix, ih, List.infix_cons_iff]

/-- The address with a scheme, before the slashes at its end go. -/
def fullAddress (address : Text) : Text :=
  if occurs schemeMark.points address.points then address else plainMark ++ address

theorem normalAddress_eq (address : Text) :
    normalAddress address = trimAddress (fullAddress address) :=
  rfl

theorem isStray_iff {address : Text} :
    IsStray address ↔ HasScheme "http" (fullAddress address) ∧ ¬IsPlain (fullAddress address) := by
  unfold fullAddress
  split
  · rename_i hmark
    have hinside := occurs_schemeMark_iff.mp hmark
    constructor
    · rintro (hslashes | ⟨_, hscheme, hplain⟩)
      · -- the mark of a scheme has a colon
        have hcolon := hslashes (.char ':') (hinside.subset (by decide))
        cases hcolon
      · exact ⟨hscheme, hplain⟩
    · rintro ⟨hscheme, hplain⟩
      exact .respelt hinside hscheme hplain
  · rename_i hmark
    have hplain : IsPlain (plainMark ++ address) ↔ ∃ p ∈ address.points, p ≠ .char '/' := by
      constructor
      · rintro ⟨host, heq, hhost⟩
        have hsame : address.points = host.points :=
          List.append_cancel_left (congrArg Text.points heq)
        exact hsame ▸ hhost
      · exact fun h => ⟨address, rfl, h⟩
    constructor
    · rintro (hslashes | ⟨hinside, _⟩)
      · refine ⟨hasScheme_plain address, ?_⟩
        rw [hplain]
        rintro ⟨p, hp, hne⟩
        exact hne (hslashes p hp)
      · exact absurd (occurs_schemeMark_iff.mpr hinside) hmark
    · rintro ⟨_, hhostless⟩
      refine .hostless fun p hp => ?_
      by_contra hne
      exact hhostless (hplain.mpr ⟨p, hp, hne⟩)

/-- A submission keeps the plain scheme just if the address is a stray one. -/
theorem hasScheme_secured_iff {address path : Text} {p : CodePoint} {ps : List CodePoint}
    (hpath : path.points = .char '/' :: p :: ps) (hp : p ≠ .char '/') :
    HasScheme "http" (secured (normalAddress address ++ path)) ↔ IsStray address := by
  rw [isStray_iff, normalAddress_eq, ← prefix_append_path_iff hpath hp]
  have hscheme : HasScheme "http" (trimAddress (fullAddress address) ++ path) ↔
      HasScheme "http" (fullAddress address) := by
    have hbehind : trimAddress (fullAddress address) ++ path =
        ⟨(trimAddress (fullAddress address)).points ++ .char '/' :: p :: ps⟩ := by
      rw [← hpath]
      rfl
    rw [hbehind, hasScheme_append_slash (by decide), hasScheme_trimAddress (by decide)]
  obtain ⟨behind, hplain, hsecured⟩ | ⟨hplain, hsecured⟩ :=
    secured_cases (trimAddress (fullAddress address) ++ path)
  · rw [hsecured]
    refine iff_of_false (not_hasScheme_secure behind) ?_
    rintro ⟨_, hnot⟩
    exact hnot (hplain ▸ ⟨behind.points, rfl⟩)
  · rw [hsecured, hscheme]
    exact ⟨fun h => ⟨h, hplain⟩, And.left⟩

/-! ## Requests of a client -/

namespace Question

def path : Question → Text
  | settings => Query.settings.path
  | accountState account => (Query.accountState account).path
  | submit _ => "/api/v0/message"
  | submitAll _ => "/api/v1/fragments"
  | fragmentLogs => Query.fragmentLogs.path
  | proposals => Query.proposals.path
  | voteStatuses account => (Query.voteStatuses account).path

/-- The request that a client makes for a question, if it makes one. -/
def request? (rest : Rest) : Question → Option Request
  | settings => some (Query.settings.request rest)
  | accountState account => some ((Query.accountState account).request rest)
  | submit fragment =>
    some ⟨.post, rest.url .post "/api/v0/message", rest.timeout,
      .bytes "application/octet-stream" fragment⟩
  | submitAll [] => none
  | submitAll (fragment :: fragments) => some (rest.batchRequest (fragment :: fragments))
  | fragmentLogs => some (Query.fragmentLogs.request rest)
  | proposals => some (Query.proposals.request rest)
  | voteStatuses account => some ((Query.voteStatuses account).request rest)

/-- The world after a question was put to a node, whatever has come of it. -/
def after {ω : Type} (client : Client ω) (w : ω) : Question → ω
  | settings => (client.settings.effect w).2
  | accountState account => ((client.accountState account).effect w).2
  | submit fragment => ((client.submit fragment).effect w).2
  | submitAll fragments => ((client.submitAll fragments).effect w).2
  | fragmentLogs => (client.fragmentLogs.effect w).2
  | proposals => (client.proposals.effect w).2
  | voteStatuses account => ((client.voteStatuses account).effect w).2

/-- The path of a question goes on behind one slash. -/
theorem exists_path (question : Question) :
    ∃ p ps, question.path.points = .char '/' :: p :: ps ∧ p ≠ .char '/' := by
  cases question <;> exact ⟨.char 'a', _, rfl, by decide⟩

theorem request?_url {rest : Rest} {question : Question} {request : Request}
    (h : question.request? rest = some request) :
    request.url = rest.url request.method question.path := by
  cases question with
  | submitAll fragments =>
      cases fragments with
      | nil => cases h
      | cons => cases h; rfl
  | _ => cases h; rfl

end Question

/-! ## Requests on the wire -/

/-- A world, and the requests that were sent in it. -/
structure Wire (ω : Type) where
  world : ω
  sent : List Request

namespace Wire

variable {ω α β : Type} {requests : List Request} {a : Action (Wire ω) α}
  {f : α → Action (Wire ω) β}

/-- The transport with all that is sent taken down, whether there is a reply or not. -/
def transport (transport : Transport ω) : Transport (Wire ω) where
  send := fun request => (transport.send request).zoom Wire.world fun world wire =>
    { world := world, sent := wire.sent ++ [request] }
  close := transport.close.zoom Wire.world fun world wire => { wire with world := world }

/-- An action sends some requests and no others, whether it fails or not. -/
def Sends (requests : List Request) (a : Action (Wire ω) α) : Prop :=
  ∀ wire, (a.effect wire).2.sent = wire.sent ++ requests

theorem sends_pure (x : α) : Sends [] (pure x : Action (Wire ω) α) :=
  fun _ => (List.append_nil _).symm

theorem sends_throw (e : Failure) : Sends [] (throw e : Action (Wire ω) α) :=
  fun _ => (List.append_nil _).symm

theorem sends_lift (r : Except Failure α) : Sends [] (liftM r : Action (Wire ω) α) :=
  fun _ => (List.append_nil _).symm

theorem Sends.bind (ha : Sends requests a) (hf : ∀ x, Sends [] (f x)) :
    Sends requests (a >>= f) := by
  intro wire
  rw [effect_bind, ← ha wire]
  rcases a.effect wire with ⟨e | x, wire'⟩
  · rfl
  · exact (hf x wire').trans (List.append_nil _)

theorem sends_report_bind (rest : Rest) (message : Text) {f : Unit → Action (Wire ω) β}
    (hf : Sends requests (f ())) : Sends requests (rest.report message >>= f) := by
  intro wire
  rw [effect_bind_ok (rest.effect_report message wire)]
  exact hf wire

variable (rest : Rest) (t : Transport ω)

/-- A request is sent once, and reports send nothing. -/
theorem sends_ask (method : Method) (path : Text) (payload : Payload) :
    Sends [⟨method, rest.url method path, rest.timeout, payload⟩]
      (rest.ask (transport t) method path payload) := by
  unfold Rest.ask
  refine sends_report_bind rest _ (Sends.bind (fun _ => rfl) ?_)
  rintro (reason | reply)
  · exact sends_throw _
  · refine sends_report_bind rest _ ?_
    split
    · exact (sends_throw _).bind fun _ => sends_pure _
    · exact sends_pure _

theorem sends_query (q : Query) : Sends [q.request rest] (q.ask (rest.client (transport t))) := by
  have hask : q.ask (rest.client (transport t)) = (do
      let d ← rest.askDocument (transport t) q.path
      Rest.understood q.what q.expected (q.read d)) := by
    cases q <;> rfl
  rw [hask]
  unfold Rest.askDocument
  exact ((sends_ask rest t .get q.path .none).bind fun _ => sends_lift _).bind fun _ => sends_lift _

theorem sends_submit (fragment : Bytes) :
    Sends ((Question.submit fragment).request? rest).toList (rest.submit (transport t) fragment) :=
  (sends_ask rest t .post _ _).bind fun _ => sends_pure _

theorem sends_submitAll (fragments : List Bytes) :
    Sends ((Question.submitAll fragments).request? rest).toList
      (rest.submitAll (transport t) fragments) := by
  cases fragments with
  | nil => exact sends_pure _
  | cons =>
      exact (sends_ask rest t .post _ _).bind fun _ => (sends_lift _).bind fun _ => sends_lift _

/-- A question puts its request on the wire, and nothing else. -/
theorem sent_after (question : Question) (wire : Wire ω) :
    (question.after (rest.client (transport t)) wire).sent =
      wire.sent ++ (question.request? rest).toList := by
  cases question with
  | settings => exact sends_query rest t .settings wire
  | accountState account => exact sends_query rest t (.accountState account) wire
  | submit fragment => exact sends_submit rest t fragment wire
  | submitAll fragments => exact sends_submitAll rest t fragments wire
  | fragmentLogs => exact sends_query rest t .fragmentLogs wire
  | proposals => exact sends_query rest t .proposals wire
  | voteStatuses account => exact sends_query rest t (.voteStatuses account) wire

/-- Questions one after another put their requests on the wire in their order. -/
theorem sent_foldl_after (questions : List Question) (wire : Wire ω) :
    (questions.foldl (Question.after (rest.client (transport t))) wire).sent =
      wire.sent ++ questions.filterMap (Question.request? rest) := by
  induction questions generalizing wire with
  | nil => exact (List.append_nil _).symm
  | cons question questions ih =>
      rw [List.foldl_cons, ih, sent_after, List.append_assoc]
      cases h : question.request? rest with
      | none => rw [List.filterMap_cons_none h]; rfl
      | some request => rw [List.filterMap_cons_some h]; rfl

end Wire

/-- A URL is another one, but for the secure scheme in the place of the plain one. -/
def SameButSecure (url plain : Text) : Prop :=
  url = plain ∨ ∃ behind : Text, plain = plainMark ++ behind ∧ url = "https://" ++ behind

/-- **Where requests go.** Whatever a client is asked for, and whatever comes of it, it sends the
requests for that and no others. To read, or without the setting for submissions, it asks at the
address of the node and the path. With the setting, what is submitted goes there too, but for the
secure scheme in the place of the plain one; the plain scheme stays just if the address is a
stray one. -/
theorem submits_securely_unless_stray {ω : Type} {address : Text} {rest : Rest}
    (haddress : rest.address = normalAddress address) (t : Transport ω)
    (questions : List Question) (wire : Wire ω) :
    (questions.foldl (Question.after (rest.client (Wire.transport t))) wire).sent =
      wire.sent ++ questions.filterMap (Question.request? rest) ∧
    ∀ (question : Question) (request : Request), question.request? rest = some request →
      (request.method = .get ∨ rest.httpsForPost = false →
        request.url = normalAddress address ++ question.path) ∧
      (request.method = .post → rest.httpsForPost = true →
        SameButSecure request.url (normalAddress address ++ question.path) ∧
        (HasScheme "http" request.url ↔ IsStray address)) := by
  refine ⟨Wire.sent_foldl_after rest t questions wire, ?_⟩
  intro question request hrequest
  rw [Question.request?_url hrequest]
  unfold Rest.url
  dsimp only
  rw [haddress]
  constructor
  · rintro (hget | hoff)
    · rw [hget]
      rfl
    · rw [hoff, Bool.and_false]
      rfl
  · intro hpost hsecure
    rw [hpost, hsecure]
    obtain ⟨p, ps, hpath, hp⟩ := question.exists_path
    refine ⟨?_, hasScheme_secured_iff hpath hp⟩
    obtain ⟨behind, hplain, hsecured⟩ | ⟨_, hsecured⟩ :=
      secured_cases (normalAddress address ++ question.path)
    · exact .inr ⟨behind, hplain, hsecured⟩
    · exact .inl hsecured

/-- A client that is to submit over the secure scheme, and was given an address. -/
def securing (address : Text) : Rest :=
  { address := normalAddress address, httpsForPost := true }

/-- An address with its scheme in capitals is a stray one: fragments go there over the plain scheme
all the same. An address without a scheme is none. -/
theorem submits_securely_unless_stray_capitals :
    (((Question.submit []).after ((securing "HTTP://node").client
      (Wire.transport (replying (goodReply "id")))) ⟨(), []⟩).sent.map (·.url) =
        [("HTTP://node/api/v0/message" : Text)] ∧
      HasScheme "http" "HTTP://node/api/v0/message") ∧
    (((Question.submit []).after ((securing "node").client
      (Wire.transport (replying (goodReply "id")))) ⟨(), []⟩).sent.map (·.url) =
        [("https://node/api/v0/message" : Text)] ∧
      ¬HasScheme "http" "https://node/api/v0/message") := by
  have hcapitals : IsStray "HTTP://node" := by
    refine .respelt (occurs_schemeMark_iff.mp (by decide))
      ⟨['H', 'T', 'T', 'P'], _, rfl, by decide⟩ ?_
    rintro ⟨host, hhost, _⟩
    have hfirst : some (CodePoint.char 'H') = some (.char 'h') :=
      congrArg (·.points.head?) hhost
    exact absurd hfirst (by decide)
  have hbare : ¬IsStray "node" := by
    rintro (hslashes | ⟨hinside, _⟩)
    · exact absurd (hslashes (.char 'n') (by decide)) (by decide)
    · exact absurd (occurs_schemeMark_iff.mpr hinside) (by decide)
  have haddress : ∀ address, (securing address).address = normalAddress address := fun _ => rfl
  obtain ⟨hsent, hurl⟩ := submits_securely_unless_stray (haddress "HTTP://node")
    (replying (goodReply "id")) [.submit []] ⟨(), []⟩
  obtain ⟨hsent', hurl'⟩ := submits_securely_unless_stray (haddress "node")
    (replying (goodReply "id")) [.submit []] ⟨(), []⟩
  refine ⟨⟨(congrArg (List.map (·.url)) hsent).trans rfl, ?_⟩,
    (congrArg (List.map (·.url)) hsent').trans rfl, ?_⟩
  · exact ((hurl (.submit []) _ rfl).2 rfl rfl).2.mpr hcapitals
  · exact mt ((hurl' (.submit []) _ rfl).2 rfl rfl).2.mp hbare

end BallotWallet.Ledger
