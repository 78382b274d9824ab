import Mathlib.Data.List.DropRight
import ReleasePreview.Proofs.Source.CachePaths
import ReleasePreview.Source.Site

/-!
What a package site is asked for, and how it is understood. Each call makes one request, for a URL
that tells the call, the package and the version apart from all others, and its reply is an answer,
an absence or a failure, whatever site it comes from.
-/
namespace ReleasePreview

namespace Http.Exchange

variable {α : Type} {url : String} {log : List (String × Reply)} {a : α}

/-- The requests of an exchange, each with a reply to it, and what comes of them. Nothing is assumed
of the replies. -/
inductive Conversation : Exchange α → List (String × Reply) → α → Prop
  | done (a : α) : Conversation (.done a) [] a
  | get {url : String} {next : Reply → Exchange α} {reply : Reply} {log : List (String × Reply)}
      {a : α} (h : Conversation (next reply) log a) :
      Conversation (.get url next) ((url, reply) :: log) a

theorem conversation_done {b : α} : Conversation (.done b) log a ↔ log = [] ∧ b = a := by
  constructor
  · rintro ⟨⟩
    exact ⟨rfl, rfl⟩
  · rintro ⟨rfl, rfl⟩
    exact .done b

theorem conversation_get {next : Reply → Exchange α} : Conversation (.get url next) log a ↔
    ∃ reply rest, log = (url, reply) :: rest ∧ Conversation (next reply) rest a := by
  constructor
  · rintro (_ | h)
    exact ⟨_, _, rfl, h⟩
  · rintro ⟨reply, rest, rfl, h⟩
    exact .get h

/-- With a site that gives the replies, the exchange comes to the same. -/
theorem Conversation.run {e : Exchange α} (h : e.Conversation log a) {site : Site}
    (hsite : ∀ request ∈ log, site request.1 = request.2) : e.run site = a := by
  induction h with
  | done a => rfl
  | get h ih =>
    obtain ⟨hreply, hlog⟩ := List.forall_mem_cons.mp hsite
    rw [Exchange.run, hreply]
    exact ih hlog

end Http.Exchange

namespace PackageSite

variable {α : Type} {url : String} {absent : α} {read : String → Except BackendError α}
  {reply : Http.Reply} {r : Except BackendError α}

/-- What comes of a reply: what is absent is not found, and the body is read only of an answer that
tells of success. -/
inductive Classified (url : String) (absent : α) (read : String → Except BackendError α) :
    Http.Reply → Except BackendError α → Prop
  | absent (body : Except String String) :
      Classified url absent read (.answer 404 body) (.ok absent)
  | success {status : Nat} (raw : String) (h : 200 ≤ status ∧ status ≤ 299) :
      Classified url absent read (.answer status (.ok raw)) (read raw)
  | brokenOff {status : Nat} (why : String) (h : 200 ≤ status ∧ status ≤ 299) :
      Classified url absent read (.answer status (.error why)) (.error (.notReceived url why))
  | refused {status : Nat} (body : Except String String) (hfound : status ≠ 404)
      (h : ¬ (200 ≤ status ∧ status ≤ 299)) :
      Classified url absent read (.answer status body) (.error (.unexpectedStatus url status))
  | lost (why : String) : Classified url absent read (.lost why) (.error (.notRequested url why))

/-- A body that is decoded: what its value stands for, or what is said of the error. -/
def decoded {β : Type} (d : Json.Decoder β) (value : β → α)
    (refusal : Json.DecodeError → BackendError) (raw : String) : Except BackendError α :=
  match Json.decodeText d raw with
  | .ok b => .ok (value b)
  | .error why => .error (refusal why)

/-- A call that makes one request, and comes to what its reply is classified as. -/
def Asks (call : ExceptT BackendError Http.Exchange α) (url : String) (absent : α)
    (read : String → Except BackendError α) : Prop :=
  ∀ log r, call.run.Conversation log r ↔
    ∃ reply, log = [(url, reply)] ∧ Classified url absent read reply r

section Classification

/-- What is made of a body that may be absent. -/
def taken (absent : α) (read : String → Except BackendError α) : Option String →
    Except BackendError α
  | some raw => read raw
  | none => .ok absent

theorem isSuccess_iff {status : Nat} :
    Http.isSuccess status = true ↔ 200 ≤ status ∧ status ≤ 299 := by
  rw [Http.isSuccess, Bool.and_eq_true, decide_eq_true_iff, decide_eq_true_iff]
  omega

/-- Every reply is classified, and in one way. -/
theorem classified_iff :
    Classified url absent read reply r ↔ (body? url reply >>= taken absent read) = r := by
  have hfound : ∀ {status : Nat}, 200 ≤ status ∧ status ≤ 299 → status ≠ 404 := by omega
  constructor
  · rintro (body | ⟨raw, h⟩ | ⟨why, h⟩ | ⟨body, hfound, h⟩ | why)
    · rfl
    · simp only [body?, if_neg (hfound h), if_pos (isSuccess_iff.mpr h)]
      rfl
    · simp only [body?, if_neg (hfound h), if_pos (isSuccess_iff.mpr h)]
      rfl
    · simp only [body?, if_neg hfound, if_neg (mt isSuccess_iff.mp h)]
      rfl
    · rfl
  · rintro rfl
    cases reply with
    | lost why => exact .lost why
    | answer status body =>
      by_cases hstatus : status = 404
      · subst hstatus
        exact .absent body
      · by_cases h : 200 ≤ status ∧ status ≤ 299
        · simp only [body?, if_neg hstatus, if_pos (isSuccess_iff.mpr h)]
          cases body with
          | ok raw => exact .success raw h
          | error why => exact .brokenOff why h
        · simp only [body?, if_neg hstatus, if_neg (mt isSuccess_iff.mp h)]
          exact .refused body hstatus h

/-- Where no body is read as the absence of anything, only what is not found is absent. -/
theorem exists_absent_of_classified (hread : ∀ raw, read raw ≠ .ok absent)
    (h : Classified url absent read reply (.ok absent)) : ∃ body, reply = .answer 404 body := by
  generalize hr : Except.ok absent = r at h
  cases h with
  | absent body => exact ⟨body, rfl⟩
  | success raw _ => exact absurd hr.symm (hread raw)
  | brokenOff why _ => contradiction
  | refused body _ _ => contradiction
  | lost why => contradiction

/-- A call that asks for a URL and goes by what is found there. -/
theorem asks_of_run {call : ExceptT BackendError Http.Exchange α}
    (hrun : call.run = .get url fun reply => .done (body? url reply >>= taken absent read)) :
    Asks call url absent read := by
  intro log r
  simp only [hrun, Http.Exchange.conversation_get, Http.Exchange.conversation_done, classified_iff]
  constructor
  · rintro ⟨reply, rest, rfl, rfl, hr⟩
    exact ⟨reply, rfl, hr⟩
  · rintro ⟨reply, rfl, hr⟩
    exact ⟨reply, [], rfl, rfl, hr⟩

/-- Nothing else is asked for behind what has been fetched. -/
theorem asks_fetch {next : Option String → ExceptT BackendError Http.Exchange α}
    (hnext : ∀ found, (next found).run = .done (taken absent read found)) :
    Asks (fetch url >>= next) url absent read := by
  refine asks_of_run (congrArg (Http.Exchange.get url) (funext fun reply => ?_))
  change ExceptT.bindCont next (body? url reply) = _
  cases body? url reply with
  | error e => rfl
  | ok found => exact hnext found

end Classification

section Calls

/-- What a call comes to with a site depends on one reply of it. -/
theorem Asks.run_eq {call : ExceptT BackendError Http.Exchange α} (h : Asks call url absent read)
    {site : Http.Site} (hr : Classified url absent read (site url) r) : call.run.run site = r :=
  ((h _ r).mpr ⟨site url, rfl, hr⟩).run (List.forall_mem_singleton.mpr rfl)

variable (s : PackageSite) (p : PackageName) (v : Version)

theorem versions_asks : Asks (s.versions p) (s.url p .versions) []
    (decoded Releases.decode id .malformedListing) := by
  refine asks_fetch fun found => ?_
  cases found with
  | none => rfl
  | some raw =>
    change Http.Exchange.done (listing raw) = .done (decoded _ id _ raw)
    rw [listing, decoded]
    cases Json.decodeText Releases.decode raw <;> rfl

theorem docs_asks : Asks (s.docs p v) (s.url p (.docs v)) none
    (decoded Docs.decode some (.malformedAnswer (s.url p (.docs v)))) := by
  refine asks_fetch fun found => ?_
  cases found with
  | none => rfl
  | some raw =>
    change ExceptT.bindCont (fun docs => pure (some docs)) (documentation _ raw) =
      Http.Exchange.done (decoded _ some _ raw)
    rw [documentation, decoded]
    cases Json.decodeText Docs.decode raw <;> rfl

theorem readme_asks :
    Asks (s.readme p v) (s.url p (.readme v)) none fun raw => .ok (some raw) := by
  refine asks_of_run (congrArg (Http.Exchange.get _) (funext fun reply => ?_))
  rcases body? (s.url p (.readme v)) reply with e | found
  · rfl
  · cases found <;> rfl

end Calls

section Urls

/-- A text of slashes alone. -/
def slashes (n : Nat) : String := String.ofList (List.replicate n '/')

theorem toList_baseUrl (base : String) :
    (ofUrl base).baseUrl.toList = base.toList.rdropWhile (· = '/') := by
  simp [ofUrl, List.rdropWhile]

theorem getLast?_baseUrl (base : String) : (ofUrl base).baseUrl.toList.getLast? ≠ some '/' := by
  intro hlast
  obtain ⟨stem, hstem⟩ := List.getLast?_eq_some_iff.mp hlast
  -- With a slash at its end, it would become shorter by dropping slashes once more.
  have hself := List.rdropWhile_idempotent (fun c => decide (c = '/')) base.toList
  rw [← toList_baseUrl, hstem, List.rdropWhile_concat_pos _ _ _ (by simp)] at hself
  have hlength := (List.rdropWhile_prefix (fun c => decide (c = '/')) (l := stem)).length_le
  rw [hself, List.length_append, List.length_singleton] at hlength
  omega

theorem ofUrl_append_slashes (base : String) (n : Nat) :
    ofUrl (base ++ slashes n) = ofUrl base := by
  have hslash : ∀ c ∈ List.replicate n '/', decide (c = '/') = true := fun c hc =>
    decide_eq_true (List.eq_of_mem_replicate hc)
  rw [ofUrl, ofUrl, slashes, String.toList_append, String.toList_ofList, List.reverse_append,
    List.reverse_replicate, List.dropWhile_append_of_pos hslash]

theorem exists_eq_baseUrl_append (base : String) :
    ∃ n, base = (ofUrl base).baseUrl ++ slashes n := by
  have hslash : ∀ c ∈ base.toList.rtakeWhile (· = '/'), c = '/' := fun c hc =>
    of_decide_eq_true (List.mem_rtakeWhile_imp (p := (· = '/')) hc)
  refine ⟨(base.toList.rtakeWhile (· = '/')).length, String.toList_inj.mp ?_⟩
  rw [String.toList_append, toList_baseUrl, slashes, String.toList_ofList,
    ← List.eq_replicate_of_mem hslash, List.rdropWhile_append_rtakeWhile]

variable {s : PackageSite} {p p' : PackageName} {q q' : Query}

/-- The segments behind the project. -/
def tailParts : Query → List String
  | .versions => ["releases.json"]
  | .docs v => [v.text, "docs.json"]
  | .readme v => [v.text, "README.md"]

theorem parts_tail (q : Query) : Path.parts (tail q) = tailParts q := by
  have hfile : ∀ (v : Version) {file : String}, Path.IsPart file →
      Path.parts (v.text ++ "/" ++ file) = [v.text, file] := fun v file h => by
    rw [Path.parts_slash, Path.parts_of_isPart v.isName_text.part, Path.parts_of_isPart h]
    rfl
  cases q with
  | versions => exact Path.parts_of_isPart (by decide)
  | docs v =>
    rw [tail, show "/docs.json" = "/" ++ "docs.json" from rfl, ← String.append_assoc]
    exact hfile v (by decide)
  | readme v =>
    rw [tail, show "/README.md" = "/" ++ "README.md" from rfl, ← String.append_assoc]
    exact hfile v (by decide)

/-- The segments of a URL are those of its base, and behind them what tells requests apart. -/
theorem parts_url (s : PackageSite) (p : PackageName) (q : Query) :
    Path.parts (s.url p q) =
      Path.parts (s.baseUrl ++ "/packages") ++ [p.author, p.project] ++ tailParts q := by
  rw [url, show "/packages/" = "/packages" ++ "/" from rfl, ← String.append_assoc,
    Path.parts_slash, Path.parts_slash, Path.parts_slash, Path.parts_of_isPart p.author_isPart,
    Path.parts_of_isPart p.project_isPart, parts_tail, List.append_assoc _ [p.author]]
  rfl

theorem tailParts_injective : Function.Injective tailParts := by
  intro q q' h
  cases q with
  | versions =>
    cases q' with
    | versions => rfl
    | docs v' | readme v' => simp [tailParts] at h
  | docs v =>
    cases q' with
    | docs v' => exact congrArg Query.docs (Version.text_injective (by simpa [tailParts] using h))
    | versions | readme v' => simp [tailParts] at h
  | readme v =>
    cases q' with
    | readme v' =>
      exact congrArg Query.readme (Version.text_injective (by simpa [tailParts] using h))
    | versions | docs v' => simp [tailParts] at h

/-- No two requests to a site are for one URL. -/
theorem eq_of_url_eq (h : s.url p q = s.url p' q') : p = p' ∧ q = q' := by
  have hparts : Path.parts (s.url p q) = Path.parts (s.url p' q') := by rw [h]
  rw [parts_url, parts_url, List.append_assoc, List.append_assoc,
    List.append_cancel_left_eq] at hparts
  obtain ⟨hauthor, hproject, htail⟩ : p.author = p'.author ∧ p.project = p'.project ∧
      tailParts q = tailParts q' := by simpa using hparts
  exact ⟨PackageName.ext_parts hauthor hproject, tailParts_injective htail⟩

end Urls

/-- A base is that of its site with slashes behind it, of which any number may be there. A call asks
for one URL, below the base along the parts of the package, which is that of no other call. What the
call comes to depends on the reply alone: what is not found is absent, and nothing else is; a body
is decoded, or kept as it is, if the answer tells of success, and whatever else the site does is a
failure. -/
theorem requests_classified (base : String) :
    (∀ n, ofUrl (base ++ slashes n) = ofUrl base) ∧
    let s := ofUrl base
    (s.baseUrl.toList.getLast? ≠ some '/' ∧ ∃ n, base = s.baseUrl ++ slashes n) ∧
    (∀ p : PackageName,
      let package := s.baseUrl ++ "/packages/" ++ p.author ++ "/" ++ p.project
      s.url p .versions = package ++ "/releases.json" ∧
      ∀ v, s.url p (.docs v) = package ++ "/" ++ v.text ++ "/docs.json" ∧
        s.url p (.readme v) = package ++ "/" ++ v.text ++ "/README.md") ∧
    (∀ p p' q q', s.url p q = s.url p' q' → p = p' ∧ q = q') ∧
    ∀ (w : Surroundings) p v,
      (let url := s.url p .versions
        let read := decoded Releases.decode id .malformedListing
        Asks (s.versions p) url [] read ∧
        ∀ r, Classified url [] read (w.site url) r → s.source.versions w p = .ofExcept r) ∧
      (let url := s.url p (.docs v)
        let read := decoded Docs.decode some (.malformedAnswer url)
        Asks (s.docs p v) url none read ∧
        (∀ reply, Classified url none read reply (.ok none) → ∃ body, reply = .answer 404 body) ∧
        ∀ r, Classified url none read (w.site url) r → s.source.docs w p v = .ofExcept r) ∧
      (let url := s.url p (.readme v)
        let read := fun raw => .ok (some raw)
        Asks (s.readme p v) url none read ∧
        (∀ reply, Classified url none read reply (.ok none) → ∃ body, reply = .answer 404 body) ∧
        ∀ r, Classified url none read (w.site url) r → s.source.readme w p v = .ofExcept r) := by
  refine ⟨ofUrl_append_slashes base, ?_⟩
  intro s
  refine ⟨⟨getLast?_baseUrl base, exists_eq_baseUrl_append base⟩,
    fun p => ⟨?_, fun v => ⟨?_, ?_⟩⟩, fun _ _ _ _ => eq_of_url_eq, fun w p v => ⟨?_, ?_, ?_⟩⟩
  · rw [url, tail, String.append_assoc]
    rfl
  · rw [url, tail, ← String.append_assoc]
  · rw [url, tail, ← String.append_assoc]
  · have hasks := s.versions_asks p
    exact ⟨hasks, fun r hr => congrArg Outcome.ofExcept (hasks.run_eq hr)⟩
  · have hasks := s.docs_asks p v
    have hread : ∀ raw, decoded Docs.decode some (.malformedAnswer (s.url p (.docs v))) raw ≠
        .ok none := by
      intro raw
      rw [decoded]
      cases Json.decodeText Docs.decode raw <;> exact nofun
    exact ⟨hasks, fun reply => exists_absent_of_classified hread,
      fun r hr => congrArg Outcome.ofExcept (hasks.run_eq hr)⟩
  · have hasks := s.readme_asks p v
    exact ⟨hasks, fun reply => exists_absent_of_classified fun raw => nofun,
      fun r hr => congrArg Outcome.ofExcept (hasks.run_eq hr)⟩

end PackageSite

end ReleasePreview
