import EditBatch.Http.Basic

/-! What comes of a request that is sent, and which requests are sent.

An outcome is regular if the transport failed in a known way or a response came, whose body, if it
is no JSON document, is refused as such. A regular outcome either brings a JSON value, or was not
delivered, or is no JSON.
-/

set_option autoImplicit false

namespace EditBatch

theorem bind_eq_ok_iff {ε α β : Type} {first : Except ε α} {next : α → Except ε β} {value : β} :
    (first >>= next) = .ok value ↔ ∃ between, first = .ok between ∧ next between = .ok value := by
  cases first <;> simp [bind, Except.bind]

namespace Http

/-- The transport failed in one of its own ways or a response came, and only malformed bodies are
refused. -/
structure IsRegular (outcome : Outcome) : Prop where
  transported : ∀ reason, outcome ≠ .error (.fault reason)
  decoded : ∀ response failure, outcome = .ok response →
    response.body.document = .error failure → failure = .malformed

/-- A response with a status from 200 to 299 has a JSON value as its body. -/
def Brings (outcome : Outcome) (value : Json) : Prop :=
  ∃ response, outcome = .ok response ∧ 200 ≤ response.status ∧ response.status < 300 ∧
    response.body.document = .ok value

theorem isSuccess_iff (status : Nat) : isSuccess status = true ↔ 200 ≤ status ∧ status < 300 := by
  simp [isSuccess]

theorem document_eq_ok_iff {outcome : Outcome} {value : Json} :
    document outcome = .ok value ↔ Brings outcome value := by
  constructor
  · intro read
    unfold document at read
    split at read
    · simp at read
    · simp at read
    · simp at read
    next response =>
      split at read
      next success =>
        obtain ⟨least, most⟩ := (isSuccess_iff _).mp success
        split at read
        next found =>
          cases read
          exact ⟨response, rfl, least, most, found⟩
        · simp at read
        · simp at read
      · simp at read
  · rintro ⟨response, rfl, least, most, found⟩
    simp only [document, (isSuccess_iff _).mpr ⟨least, most⟩, found, if_true]

theorem Brings.eq {outcome : Outcome} {one other : Json} (first : Brings outcome one)
    (second : Brings outcome other) : one = other := by
  rw [← document_eq_ok_iff] at first second
  exact Except.ok.inj (first.symm.trans second)

theorem document_ne_fault {outcome : Outcome} (regular : IsRegular outcome) (reason : Fault) :
    document outcome ≠ .error (.fault reason) := by
  obtain ⟨transported, decoded⟩ := regular
  unfold document
  split
  · simp
  · simp
  next given => exact absurd rfl (transported given)
  next response =>
    split
    · split
      · simp
      · simp
      next kind tooDeep => exact absurd (decoded response _ rfl tooDeep) (by simp)
    · simp

/-- A regular outcome that brings no JSON value was not delivered or is no JSON. -/
theorem document_of_regular {outcome : Outcome} (regular : IsRegular outcome) :
    (∃ value, document outcome = .ok value) ∨
      (∃ message, document outcome = .error (.notDelivered message)) ∨
      document outcome = .error .notJson := by
  have faultless := document_ne_fault regular
  generalize document outcome = read at faultless
  match read with
  | .ok value => exact .inl ⟨value, rfl⟩
  | .error (.notDelivered message) => exact .inr (.inl ⟨message, rfl⟩)
  | .error .notJson => exact .inr (.inr rfl)
  | .error (.fault reason) => exact absurd rfl (faultless reason)

theorem isRegular_json (status : Nat) (value : Json) : IsRegular (.ok ⟨status, .json value⟩) := by
  refine ⟨by simp, ?_⟩
  rintro response failure ⟨⟩ refused
  simp [Body.document] at refused

variable {σ : Type} (server : Server σ)

def Server.recorded : Server (σ × List RequestRecord) where
  answer now request state :=
    let (answer, after) := server.answer now request state.1
    (answer, after, state.2 ++ [⟨now, request⟩])

/-- A request as it is sent, with its address written out, unless it is refused before that. -/
def sent? (request : Request) : Option Request :=
  (Url.read? request.url).bind fun url =>
    if lengthLimit < (queryOf request.params).length then none
    else some { request with url := url.text }

theorem send_recorded (now : Nat) (request : Request) (state : σ) (log : List RequestRecord) :
    server.recorded.send now request (state, log) =
      ((server.send now request state).1, (server.send now request state).2,
        log ++ (sent? request).toList.map (⟨now, ·⟩)) := by
  unfold Server.send sent?
  split
  next unread => simp [unread]
  next url read =>
    rw [read, Option.bind_some]
    split
    · simp
    · simp only [Server.recorded]
      -- A response from an address without a server name is lost, but the request was sent.
      split
      · rfl
      · rfl

theorem sent?_of_le {request : Request} {url : Url} (read : Url.read? request.url = some url)
    (short : (queryOf request.params).length ≤ lengthLimit) :
    sent? request = some { request with url := url.text } := by
  rw [sent?, read, Option.bind_some, if_neg (Nat.not_lt.mpr short)]

theorem sent?_eq_none_iff {request : Request} : sent? request = none ↔
    Url.read? request.url = none ∨ lengthLimit < (queryOf request.params).length := by
  unfold sent?
  cases Url.read? request.url with
  | none => simp
  | some url => simp

theorem send_of_unsent {request : Request} (unsent : sent? request = none) (now : Nat) (state : σ) :
    (server.send now request state).1.outcome = .error (.fault (.invalidAddress request.url)) := by
  unfold Server.send
  rcases sent?_eq_none_iff.mp unsent with unread | long
  · rw [unread]
  · split
    · rfl
    · rw [if_pos long]

theorem queryOf_cons_cons (first second : String × String) (rest : List (String × String)) :
    queryOf (first :: second :: rest) = queryOf [first] ++ '&' :: queryOf (second :: rest) := by
  simp [queryOf, List.intercalate_cons_cons]

theorem length_lt_queryOf {params : List (String × String)} {name value : String}
    (among : (name, value) ∈ params) :
    (queryComponent value).length < (queryOf params).length := by
  have alone : (queryComponent value).length < (queryOf [(name, value)]).length := by
    simp [queryOf]
    omega
  induction params with
  | nil => exact absurd among List.not_mem_nil
  | cons first rest ih =>
    cases rest with
    | nil =>
      obtain rfl := List.mem_singleton.mp among
      exact alone
    | cons second rest =>
      rw [queryOf_cons_cons, List.length_append, List.length_cons]
      rcases List.mem_cons.mp among with rfl | later
      · omega
      · have longer := ih later
        omega

theorem queryComponent_of_unreserved {text : List Char}
    (all : ∀ c ∈ text, isUnreserved c = true) : queryComponent (String.ofList text) = text := by
  rw [queryComponent, String.toList_ofList]
  induction text with
  | nil => rfl
  | cons c rest ih =>
    obtain ⟨first, others⟩ := List.forall_mem_cons.mp all
    have visible : c ≠ ' ' := by
      rintro rfl
      exact absurd first (by decide)
    rw [List.flatMap_cons, ih others, if_neg visible, if_pos first, List.singleton_append]

theorem exists_sent {now : Nat} {request : Request} {state : σ}
    (transported : ∀ reason, (server.send now request state).1.outcome ≠ .error (.fault reason)) :
    ∃ url, Url.read? request.url = some url ∧
      sent? request = some { request with url := url.text } := by
  unfold Server.send at transported
  unfold sent?
  cases read : Url.read? request.url with
  | none =>
    simp only [read] at transported
    exact absurd rfl (transported _)
  | some url =>
    simp only [read] at transported
    split at transported
    · exact absurd rfl (transported _)
    next short => exact ⟨url, rfl, by rw [Option.bind_some, if_neg short]⟩

end Http

end EditBatch
