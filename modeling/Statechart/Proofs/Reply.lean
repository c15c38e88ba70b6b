import Statechart.Http.Client

/-!
# What a client makes of a reply

The body of a response is JSON where the headers say so and the content can be read so, and text otherwise
(`Response.HasBody`). This is what the client reads (`body_of_hasBody`), but for content in which arrays and objects
stand too deep within each other: reading it is given up with a failure, and it is not read as text
(`Response.IsTooDeep`). A text of which there are only openings of arrays is such a content, if it is long enough
(`isTooDeep_opened`).

A response that is delivered (`Client.Meets`) is handed on if its status is one of success; any other status is a
failure that tells the status and the body, and what fails on the way fails the signup (`Meets.submit_of_response`,
`Meets.submit_of_failure`). A signup is told the message that the body has (`Message`).
-/

set_option autoImplicit false
set_option relaxedAutoImplicit false

namespace Statechart

/-! ### Ordinary failures -/

/-- If an evaluation fails, then not by an interrupt. -/
def FailsOrdinarily {α : Type} (x : Outcome α) : Prop := ∀ f, x = .error f → f.isOrdinary = true

namespace FailsOrdinarily

variable {α β : Type} {x : Outcome α}

theorem ok (a : α) : FailsOrdinarily (.ok a) := nofun

theorem error {f : Failure} (h : f.isOrdinary = true) : FailsOrdinarily (.error f : Outcome α) := by
  intro _ he
  cases he
  exact h

theorem bind {next : α → Outcome β} (hx : FailsOrdinarily x) (hnext : ∀ a, FailsOrdinarily (next a)) :
    FailsOrdinarily (x >>= next) := by
  cases x with
  | error f => exact .error (hx f rfl)
  | ok a => exact hnext a

theorem mapM {f : α → Outcome β} (h : ∀ a, FailsOrdinarily (f a)) (xs : List α) : FailsOrdinarily (xs.mapM f) := by
  induction xs with
  | nil => exact .ok []
  | cons a rest ih =>
    rw [List.mapM_cons]
    exact (h a).bind fun _ ↦ ih.bind fun _ ↦ .ok _

end FailsOrdinarily

namespace Http

/-! ### Bodies -/

namespace Response

theorem isWithin_iff (part cs : List Char) : isWithin part cs = true ↔ part <:+: cs := by
  induction cs with
  | nil => simp [isWithin, List.isEmpty_iff]
  | cons c rest ih => simp [isWithin, ih, List.infix_cons_iff, List.isPrefixOf_iff_prefix]

/-- The type of the content has that of JSON in it. -/
def TellsJson (r : Response) : Prop := jsonType.toList <:+: r.contentType.toList

theorem saysJson_iff (r : Response) : r.saysJson = true ↔ r.TellsJson := isWithin_iff _ _

/-- The headers say that the content is JSON, and it is read so. -/
def IsJson (r : Response) (v : Value) : Prop :=
  r.TellsJson ∧ ∃ text, (Content.jsonSet r.content).text? r.content = some text ∧ Json.read text = .ok v

/-- The headers say that the content is JSON, and reading it so is given up at an array or an object that is too deep. -/
def IsTooDeep (r : Response) (kind : String) : Prop :=
  r.TellsJson ∧
    ∃ text, (Content.jsonSet r.content).text? r.content = some text ∧ Json.read text = .error (.tooDeep kind)

/-- The body of a response: a value where the headers say that it is JSON and it can be read so, its text otherwise. -/
inductive HasBody (r : Response) : Value → Prop
  | json {v : Value} (h : r.IsJson v) : HasBody r v
  | text {t : String} (hjson : ∀ v, ¬ r.IsJson v) (ht : r.text = .ok t) : HasBody r (.text t)

/-- The body of a response cannot be read: it is too deep, or there is no text of it either. -/
inductive Unreadable (r : Response) : Failure → Prop
  | deep {kind : String} (h : r.IsTooDeep kind) : Unreadable r (.foreign .tooDeep (Content.depthNote kind))
  | text {f : Failure} (hjson : ∀ v, ¬ r.IsJson v) (hdeep : ∀ kind, ¬ r.IsTooDeep kind) (ht : r.text = .error f) :
    Unreadable r f

variable {r : Response} {v : Value} {f : Failure} {kind : String}

theorem IsJson.not_isTooDeep (h : r.IsJson v) (kind : String) : ¬ r.IsTooDeep kind := by
  obtain ⟨-, text, htext, hread⟩ := h
  rintro ⟨-, text', htext', hread'⟩
  cases htext.symm.trans htext'
  rw [hread] at hread'
  cases hread'

theorem body_of_isJson (h : r.IsJson v) : r.body = .ok v := by
  obtain ⟨htype, text, htext, hread⟩ := h
  have hjson : r.saysJson = true := r.saysJson_iff.mpr htype
  simp only [body, hjson, if_true, Content.json?, htext, hread]
  rfl

theorem body_of_isTooDeep (h : r.IsTooDeep kind) : r.body = .error (.foreign .tooDeep (Content.depthNote kind)) := by
  obtain ⟨htype, text, htext, hread⟩ := h
  have hjson : r.saysJson = true := r.saysJson_iff.mpr htype
  simp only [body, hjson, if_true, Content.json?, htext, hread]
  rfl

/-- What is neither JSON nor given up is read as text. -/
theorem body_of_text (hjson : ∀ v, ¬ r.IsJson v) (hdeep : ∀ kind, ¬ r.IsTooDeep kind) :
    r.body = r.text.map .text := by
  have hmap : (do return .text (← r.text) : Outcome Value) = r.text.map .text := by
    cases r.text with
    | ok t => rfl
    | error f => rfl
  unfold body
  by_cases htype : r.saysJson = true
  · rw [if_pos htype]
    cases htext : (Content.jsonSet r.content).text? r.content with
    | none =>
      simp only [Content.json?, htext]
      exact hmap
    | some text =>
      cases hread : Json.read text with
      | ok v => exact absurd ⟨r.saysJson_iff.mp htype, text, htext, hread⟩ (hjson v)
      | error flaw =>
        cases flaw with
        | malformed =>
          simp only [Content.json?, htext, hread]
          exact hmap
        | tooDeep kind => exact absurd ⟨r.saysJson_iff.mp htype, text, htext, hread⟩ (hdeep kind)
  · rw [if_neg htype]
    exact hmap

theorem body_of_hasBody (h : r.HasBody v) (hdeep : ∀ kind, ¬ r.IsTooDeep kind) : r.body = .ok v := by
  cases h with
  | json h => exact body_of_isJson h
  | text hjson ht =>
    rw [body_of_text hjson hdeep, ht]
    rfl

theorem body_of_unreadable (h : r.Unreadable f) : r.body = .error f := by
  cases h with
  | deep h => exact body_of_isTooDeep h
  | text hjson hdeep ht =>
    rw [body_of_text hjson hdeep, ht]
    rfl

/-- Every response has a body that is read, or one that is unreadable. -/
theorem hasBody_or_unreadable (r : Response) :
    (∃ v, r.HasBody v ∧ ∀ kind, ¬ r.IsTooDeep kind) ∨ ∃ f, r.Unreadable f := by
  by_cases hdeep : ∃ kind, r.IsTooDeep kind
  · obtain ⟨kind, hkind⟩ := hdeep
    exact .inr ⟨_, .deep hkind⟩
  · have hshallow := not_exists.mp hdeep
    by_cases hjson : ∃ v, r.IsJson v
    · obtain ⟨v, hv⟩ := hjson
      exact .inl ⟨v, .json hv, hshallow⟩
    · cases ht : r.text with
      | ok t => exact .inl ⟨.text t, .text (not_exists.mp hjson) ht, hshallow⟩
      | error f => exact .inr ⟨f, .text (not_exists.mp hjson) hshallow ht⟩

end Response

/-! ### Reading a body fails by no interrupt -/

theorem failsOrdinarily_setNamed (name : String) : FailsOrdinarily (MediaType.setNamed? name) := by
  unfold MediaType.setNamed?
  split
  · exact .error rfl
  · exact .ok _

theorem failsOrdinarily_sectionsOf (fields : List (String × String)) :
    FailsOrdinarily (MediaType.sectionsOf fields) := by
  induction fields with
  | nil => exact .ok []
  | cons field rest ih =>
    unfold MediaType.sectionsOf
    split
    · exact ih
    · split
      · exact (FailsOrdinarily.ok _).bind fun _ ↦ ih.bind fun _ ↦ .ok _
      · split
        · exact .error rfl
        · exact (FailsOrdinarily.ok _).bind fun _ ↦ ih.bind fun _ ↦ .ok _

theorem failsOrdinarily_assemble (sections : List MediaType.Section) :
    FailsOrdinarily (MediaType.assemble sections) := by
  have horder : FailsOrdinarily (MediaType.inOrder sections) := by
    unfold MediaType.inOrder
    split
    · exact .error rfl
    · exact .ok _
  refine horder.bind fun sections ↦ ?_
  dsimp only
  split
  · exact .ok _
  · exact .ok _

theorem failsOrdinarily_textOf (p : MediaType.Parameter) : FailsOrdinarily (MediaType.textOf p) := by
  unfold MediaType.textOf
  split
  · exact .ok _
  · refine (failsOrdinarily_setNamed _).bind fun set ↦ ?_
    cases set with
    | none => exact .ok _
    | some set => exact .ok _

theorem failsOrdinarily_charset (type : String) : FailsOrdinarily (MediaType.charset? type) := by
  have hparameters : FailsOrdinarily (MediaType.parameters type) :=
    (failsOrdinarily_sectionsOf _).bind fun _ ↦
      (FailsOrdinarily.mapM (fun _ ↦ (failsOrdinarily_assemble _).bind fun _ ↦ .ok _) _).bind fun _ ↦ .ok _
  refine hparameters.bind fun ps ↦ ?_
  split
  · exact .ok _
  · exact (failsOrdinarily_textOf _).bind fun _ ↦ .ok _

theorem failsOrdinarily_decode (set : Text.Charset) (bytes : List UInt8) : FailsOrdinarily (set.decode bytes) := by
  have hfinished (read : Text.Glyphs × List Nat) : FailsOrdinarily (Text.Charset.finished read) := by
    unfold Text.Charset.finished
    split
    · exact .error rfl
    · exact .ok _
  have hcode : FailsOrdinarily (Text.Charset.ofCode bytes) := by
    unfold Text.Charset.ofCode
    dsimp only
    split
    · exact .ok _
    · exact .error rfl
  cases set with
  | utf16 big | utf32 big =>
    cases big with
    | some _ => exact .ok _
    | none =>
      simp only [Text.Charset.decode]
      split
      · exact .ok _
      · split
        · exact .ok _
        · exact .error rfl
  | china _ | taiwan _ | korea _ | japan _ | switching _ | escaped _ => exact hfinished _
  | punycode => exact hcode.bind fun _ ↦ .ok _
  | other fault text => exact .error rfl
  | _ => exact .ok _

theorem Response.failsOrdinarily_text (r : Response) : FailsOrdinarily r.text := by
  have hcharset : FailsOrdinarily r.charset? := by
    unfold Response.charset?
    split
    · exact .ok _
    · refine (failsOrdinarily_charset _).bind fun name ↦ ?_
      cases name with
      | none => exact .ok _
      | some name => exact failsOrdinarily_setNamed name
  unfold Response.text
  split
  · exact .ok _
  · refine hcharset.bind fun set ↦ ?_
    unfold Content.text
    split
    · exact .ok _
    · exact (failsOrdinarily_decode _ _).bind fun _ ↦ .ok _

theorem Response.Unreadable.isOrdinary {r : Response} {f : Failure} (h : r.Unreadable f) : f.isOrdinary = true := by
  cases h with
  | deep => rfl
  | text _ _ ht => exact r.failsOrdinarily_text f ht

/-! ### Replies -/

/-- The message of a body: the title of an object, which is empty if there is none, and the whole of any other body. -/
inductive Message : Value → String → Prop
  | titled {es : Entries} {title : Value} (h : Entries.get? es "title" = some title) : Message (.table es) title.shown
  | untitled {es : Entries} (h : Entries.get? es "title" = none) : Message (.table es) ""
  | whole {v : Value} (h : ∀ es, v ≠ .table es) : Message v v.shown

namespace Client

variable {c : Client} {url : Value} {r : Response} {f : Failure}

theorem confirmation_of_message {v : Value} {message : String} (h : Message v message) (status : Int)
    (headers : Headers) : confirmation ⟨status, headers, v⟩ = message := by
  cases h with
  | titled h => simp only [confirmation, h, Option.getD_some]
  | untitled h => simp only [confirmation, h, Option.getD_none]; rfl
  | whole h =>
    cases v with
    | table es => exact absurd rfl (h es)
    | _ => rfl

/-- A request for a URL is sent, and this happens to it. A response is delivered if its cookies can be kept and there is a
request for the location that it sends on to. -/
inductive Meets (c : Client) (url : Value) : Reaction → Prop
  | response {connection : Connection} {sent : Request} {r : Response} {jar : Jar}
    (hconnection : c.connection = .ok connection) (hsent : connection.request (.text "GET") url .null = .ok sent)
    (hreaction : c.reaction = .response r) (hjar : c.collected sent r = .ok jar)
    (hlocation : ∀ location, r.location? = some location →
      ∃ next, Location.next sent.url location = .ok next ∧ (jar.isEmpty = false → checkKind next = .ok ())) :
    Meets c url (.response r)
  | failure {connection : Connection} {sent : Request} {f : Failure} (hconnection : c.connection = .ok connection)
    (hsent : connection.request (.text "GET") url .null = .ok sent) (hreaction : c.reaction = .failure f) :
    Meets c url (.failure f)

/-- The failure that a status outside of success is. -/
def refusal (r : Response) (body : Value) : Failure :=
  .http (.int r.status) body ("HTTP " ++ toString r.status ++ ": " ++ body.shown)

theorem said_refusal (r : Response) (body : Value) :
    (refusal r body).said = "HTTP " ++ toString r.status ++ ": " ++ body.shown := by
  simp [refusal, Failure.said, Failure.message?]

/-- What becomes of a body that was read: a reply by the status of the response. -/
def judged (r : Response) (v : Value) : Outcome Reply :=
  if 200 ≤ r.status ∧ r.status < 300 then .ok ⟨r.status, r.headers, v⟩ else .error (refusal r v)

/-- A location for which there is a request is no obstacle to a reply. -/
theorem accept_of_location {sent : Url} (hrefuses : c.refusesFailures = true)
    (hlocation : ∀ location, r.location? = some location →
      ∃ next, Location.next sent location = .ok next ∧ (c.jar.isEmpty = false → checkKind next = .ok ())) :
    c.accept sent r = r.body >>= judged r := by
  have hreply : (do
      let reply ← r.reply
      if c.refusesFailures && !reply.isSuccess then
        throw (.http (.int reply.status) reply.body ("HTTP " ++ toString reply.status ++ ": " ++ reply.body.shown))
      return reply : Outcome Reply) = r.body >>= judged r := by
    unfold Response.reply
    cases r.body with
    | error f => rfl
    | ok v =>
      change (if (c.refusesFailures && !Reply.isSuccess ⟨r.status, r.headers, v⟩) = true then _ else _) = judged r v
      by_cases hstatus : 200 ≤ r.status ∧ r.status < 300
      · rw [if_neg (by simp [Reply.isSuccess, hstatus]), judged, if_pos hstatus]
        rfl
      · have hrefused : (c.refusesFailures && !Reply.isSuccess ⟨r.status, r.headers, v⟩) = true := by
          simp only [hrefuses, Reply.isSuccess, Bool.true_and, Bool.not_eq_true', Bool.and_eq_false_imp,
            decide_eq_true_eq, decide_eq_false_iff_not]
          exact not_and.mp hstatus
        rw [if_pos hrefused, judged, if_neg hstatus]
        rfl
  unfold accept
  cases hmoved : r.location? with
  | none => exact hreply
  | some location =>
    obtain ⟨next, hnext, hkind⟩ := hlocation location hmoved
    simp only [hnext]
    cases hjar : c.jar.isEmpty with
    | true => exact hreply
    | false =>
      change checkKind next >>= (fun _ ↦ _) = _
      rw [hkind hjar]
      exact hreply

/-- A body that is read makes the outcome, by the status of the response. -/
theorem Meets.submit_of_response (h : c.Meets url (.response r)) (hrefuses : c.refusesFailures = true) :
    (c.submit url).2 = (r.body >>= judged r).map confirmation := by
  cases h with
  | @response connection sent _ jar hconnection hsent hreaction hjar hlocation =>
    let asked : Client := { c with isOpen := true }
    have hreaction : asked.reaction = .response r := hreaction
    have hjar : asked.collected sent r = .ok jar := hjar
    let next : Client := { asked with sent := c.sent ++ [sent], jar := jar }
    have hrequest : (c.submit url).2 = (next.accept sent.url r).map confirmation := by
      simp only [submit, request, hconnection, hsent, asked, hreaction, hjar, next]
    rw [hrequest, accept_of_location (c := next) hrefuses hlocation]

theorem Meets.submit_of_failure (h : c.Meets url (.failure f)) : (c.submit url).2 = .error f := by
  cases h with
  | failure hconnection hsent hreaction =>
    have hreaction' : { c with isOpen := true }.reaction = .failure f := hreaction
    simp only [submit, request, hconnection, hsent, hreaction']
    rfl

end Client

end Http

/-! ### Content that is too deep -/

namespace Json

theorem skipSpace_opened (k : Nat) : skipSpace (List.replicate k '[') = List.replicate k '[' := by
  cases k with
  | zero => rfl
  | succ k => rfl

/-- Arrays that are opened one in the other are given up at the first that is too deep. -/
theorem value_of_opened {k level fuel : Nat} (hlimit : levelLimit ≤ level + k) (hfuel : 2 * k < fuel) :
    value level fuel (List.replicate (k + 1) '[') = .error (.tooDeep "array") := by
  induction k generalizing level fuel with
  | zero =>
    obtain ⟨fuel, rfl⟩ := Nat.exists_eq_add_of_lt hfuel
    rw [List.replicate_succ, value, if_pos (by simpa using hlimit)]
  | succ k ih =>
    obtain ⟨spare, rfl⟩ := Nat.exists_eq_add_of_lt hfuel
    rw [List.replicate_succ, value]
    by_cases hlevel : levelLimit ≤ level
    · rw [if_pos hlevel]
    · -- an array and its first item take two units of fuel
      have hinner : value (level + 1) (2 * k + 1 + spare) (List.replicate (k + 1) '[') = .error (.tooDeep "array") :=
        ih (by omega) (by omega)
      have hspare : 2 * (k + 1) + spare = (2 * k + 1 + spare) + 1 := by omega
      have hitems : items (level + 1) (2 * k + 1 + spare + 1) (List.replicate (k + 1) '[') =
          .error (.tooDeep "array") := by
        rw [items, skipSpace_opened, hinner]
        rfl
      rw [if_neg hlevel, skipSpace_opened, hspare, List.replicate_succ]
      change (items (level + 1) (2 * k + 1 + spare + 1) (List.replicate (k + 1) '[')).map _ = _
      rw [hitems]
      rfl

theorem read_of_opened {n : Nat} (h : levelLimit < n) :
    read (String.ofList (List.replicate n '[')) = .error (.tooDeep "array") := by
  obtain ⟨k, rfl⟩ := Nat.exists_eq_add_of_lt h
  unfold read
  simp only [String.toList_ofList, skipSpace_opened, List.length_replicate]
  rw [value_of_opened (by omega) (by omega)]
  rfl

end Json

namespace Http

/-- A response that says that it is JSON, of which there are only openings of arrays. -/
def opened (n : Nat) : Response :=
  { headers := [("content-type", "application/json")], content := List.replicate n 0x5B }

theorem decode_opened (n : Nat) :
    Text.Charset.decode (.utf8 false) (opened n).content = .ok (List.replicate n (some '[')) := by
  have hread : Text.Charset.Unicode.utf8 n (List.replicate n 0x5B) = List.replicate n (some '[') := by
    induction n with
    | zero => rfl
    | succ n ih =>
      rw [List.replicate_succ, List.replicate_succ, Text.Charset.Unicode.utf8, if_pos (by decide), ih]
      rfl
  simp only [Text.Charset.decode, opened, List.length_replicate, Bool.false_eq_true, if_false, hread]

theorem whole_opened (n : Nat) :
    Text.Charset.whole? (List.replicate n (some '[')) = some (String.ofList (List.replicate n '[')) := by
  have hglyphs : (List.replicate n (some '[')).mapM id = some (List.replicate n '[') := by
    induction n with
    | zero => rfl
    | succ n ih =>
      rw [List.replicate_succ, List.mapM_cons, ih]
      rfl
  rw [Text.Charset.whole?, hglyphs]
  rfl

theorem get?_opened (n : Nat) : Headers.get? (opened n).headers "content-type" = some "application/json" := by
  change Headers.get? [("content-type", "application/json")] "content-type" = _
  rfl

theorem Response.isTooDeep_opened {n : Nat} (h : Json.levelLimit < n) : (opened n).IsTooDeep "array" := by
  refine ⟨?_, String.ofList (List.replicate n '['), ?_, Json.read_of_opened h⟩
  · rw [TellsJson, contentType, get?_opened]
    exact List.infix_rfl
  · obtain ⟨k, rfl⟩ : ∃ k, n = k + 4 := ⟨n - 4, by unfold Json.levelLimit at h; omega⟩
    have hset : Content.jsonSet (opened (k + 4)).content = .utf8 false := by
      simp [Content.jsonSet, opened, List.replicate_succ, Text.Charset.Unicode.mark8]
    rw [hset]
    change (Text.Charset.decode (.utf8 false) (opened (k + 4)).content).toOption.bind Text.Charset.whole? = _
    rw [decode_opened]
    exact whole_opened (k + 4)

theorem Response.text_opened (n : Nat) : (opened n).text = .ok (String.ofList (List.replicate n '[')) := by
  have hset : (opened n).charset? = .ok none := by
    simp only [charset?, get?_opened]
    rfl
  cases n with
  | zero => rfl
  | succ n =>
    have hshown : Text.Charset.shown (List.replicate (n + 1) (some '[')) =
        String.ofList (List.replicate (n + 1) '[') := by
      simp [Text.Charset.shown]
    have hread : Content.text none (opened (n + 1)).content = .ok (String.ofList (List.replicate (n + 1) '[')) := by
      change (Text.Charset.decode (.utf8 false) (opened (n + 1)).content >>= fun glyphs ↦ _) = _
      rw [decode_opened, ← hshown]
      rfl
    rw [text, hset]
    exact hread

/-- A text is the body of a response that is too deep. -/
theorem Response.hasBody_opened {n : Nat} (h : Json.levelLimit < n) :
    (opened n).HasBody (.text (String.ofList (List.replicate n '['))) :=
  .text (fun _ hjson ↦ hjson.not_isTooDeep "array" (isTooDeep_opened h)) (text_opened n)

end Http

end Statechart
