import Hexeract.LibraryMachines
import Mathlib.Logic.Function.Basic

/-! # Programs that share a server

A program issues requests and goes on with what it is answered. Several clients run
programs against one server: between two requests of a client, any number of requests of
the others may be answered. -/
namespace LibraryPrograms

open LibraryMachines

inductive Program (ρ ω α : Type) where
  | done (a : α)
  | issue (request : ρ) (next : ω → Program ρ ω α)

variable {ρ ω α γ : Type}

def Program.bind (p : Program ρ ω α) (f : α → Program ρ ω γ) : Program ρ ω γ :=
  match p with
  | .done a => f a
  | .issue request next => .issue request fun answer => (next answer).bind f

instance : Monad (Program ρ ω) where
  pure := .done
  bind := .bind

def request (r : ρ) : Program ρ ω ω := .issue r .done

/-- Where requests are answered as `A` says, the program ends in what `Q` allows. -/
def Program.Meets (A : ρ → ω → Prop) (Q : α → Prop) : Program ρ ω α → Prop
  | .done a => Q a
  | .issue request next => ∀ answer, A request answer → (next answer).Meets A Q

section Contracts

variable {A : ρ → ω → Prop} {Q : α → Prop} {Q' : γ → Prop}

theorem meets_bind {p : Program ρ ω α} {f : α → Program ρ ω γ} (first : p.Meets A Q)
    (second : ∀ a, Q a → (f a).Meets A Q') : (p.bind f).Meets A Q' := by
  induction p with
  | done a => exact second a first
  | issue request next ih => exact fun answer answered => ih answer (first answer answered)

theorem meets_trivial (p : Program ρ ω α) : p.Meets A fun _ => True := by
  induction p with
  | done a => trivial
  | issue request next ih => exact fun answer _ => ih answer

end Contracts

/-! ## Clients of one server -/

abbrev Server (ε σ ρ ω : Type) := ε → σ → ρ → σ × ω

structure System (ι σ ρ ω α : Type) where
  server : σ
  clients : ι → Option (Program ρ ω α)
  replies : List (ι × α)

inductive Event (ι ε C : Type) where
  | begin (client : ι) (call : C)
  | answer (client : ι) (surroundings : ε)
  deriving DecidableEq

variable {ι ε σ C : Type} [DecidableEq ι]

def System.resume (s : System ι σ ρ ω α) (client : ι) : Program ρ ω α → System ι σ ρ ω α
  | .done a =>
    { s with
      clients := Function.update s.clients client none
      replies := s.replies ++ [(client, a)] }
  | .issue request next =>
    { s with clients := Function.update s.clients client (some (.issue request next)) }

variable (server : Server ε σ ρ ω) (script : C → Program ρ ω α)

def next (s : System ι σ ρ ω α) : Event ι ε C → System ι σ ρ ω α
  | .begin client call => s.resume client (script call)
  | .answer client surroundings =>
    match s.clients client with
    | some (.issue request next) =>
      let answered := server surroundings s.server request
      { s with server := answered.1 }.resume client (next answered.2)
    | _ => s

/-- A client makes one call at a time, and the server answers in admissible surroundings. -/
def Enabled (admissible : ε → Prop) (s : System ι σ ρ ω α) : Event ι ε C → Prop
  | .begin client _ => s.clients client = none
  | .answer _ surroundings => admissible surroundings

def machine (admissible : ε → Prop) : Machine (System ι σ ρ ω α) (Event ι ε C) :=
  ⟨Enabled admissible, next server script⟩

section Runs

variable {server} {script} {admissible : ε → Prop}

@[simp] theorem resume_server (s : System ι σ ρ ω α) (client : ι) (p : Program ρ ω α) :
    (s.resume client p).server = s.server := by
  cases p <;> rfl

/-- What the answers keep, every run keeps. -/
theorem server_of_answers {I : σ → Prop}
    (kept : ∀ env s r, admissible env → I s → I (server env s r).1)
    {s : System ι σ ρ ω α} {events : List (Event ι ε C)} (start : I s.server)
    (allowed : (machine server script admissible).Allowed s events) :
    I ((machine server script admissible).run s events).server := by
  refine invariant_of_steps (I := fun s => I s.server) start
    (fun s event held enabled => ?_) allowed
  cases event with
  | begin client call =>
    change I (s.resume client _).server
    rwa [resume_server]
  | answer client env =>
    simp only [machine, next]
    split
    · rw [resume_server]
      exact kept _ _ _ enabled held
    · exact held

structure Keeps (A : ρ → ω → Prop) (Q : α → Prop) (s : System ι σ ρ ω α) : Prop where
  running : ∀ client p, s.clients client = some p → p.Meets A Q
  replied : ∀ reply ∈ s.replies, Q reply.2

theorem Keeps.resume {A : ρ → ω → Prop} {Q : α → Prop} {s : System ι σ ρ ω α}
    (h : Keeps A Q s) (client : ι) {p : Program ρ ω α} (meets : p.Meets A Q) :
    Keeps A Q (s.resume client p) := by
  cases p with
  | done a =>
    refine ⟨fun other q running => ?_, fun reply mem => ?_⟩
    · by_cases same : other = client
      · subst same
        simp [System.resume] at running
      · exact h.running other q (by simpa [System.resume, same] using running)
    · rcases List.mem_append.mp mem with old | new
      · exact h.replied reply old
      · rw [List.mem_singleton.mp new]
        exact meets
  | issue request next =>
    refine ⟨fun other q running => ?_, h.replied⟩
    by_cases same : other = client
    · subst same
      simp only [System.resume, Function.update_self, Option.some.injEq] at running
      exact running ▸ meets
    · exact h.running other q (by simpa [System.resume, same] using running)

/-- Calls whose scripts meet a contract that the server's answers meet are replied to
accordingly, whoever else is served in between. -/
theorem replies_of_contract {I : σ → Prop} {A : ρ → ω → Prop} {Q : α → Prop}
    (kept : ∀ env s r, admissible env → I s → I (server env s r).1)
    (answers : ∀ env s r, admissible env → I s → A r (server env s r).2)
    (scripts : ∀ call : C, (script call).Meets A Q)
    {s : System ι σ ρ ω α} {events : List (Event ι ε C)} (start : I s.server)
    (idle : ∀ client, s.clients client = none) (fresh : s.replies = [])
    (allowed : (machine server script admissible).Allowed s events) :
    ∀ reply ∈ ((machine server script admissible).run s events).replies, Q reply.2 := by
  have initial : I s.server ∧ Keeps A Q s := by
    refine ⟨start, fun client p running => ?_, fun reply mem => ?_⟩
    · rw [idle client] at running
      cases running
    · rw [fresh] at mem
      cases mem
  refine (invariant_of_steps (I := fun s => I s.server ∧ Keeps A Q s) initial
    (fun s event held enabled => ?_) allowed).2.replied
  obtain ⟨sound, keeps⟩ := held
  cases event with
  | begin client call =>
    change I (s.resume client _).server ∧ Keeps A Q (s.resume client _)
    rw [resume_server]
    exact ⟨sound, keeps.resume client (scripts call)⟩
  | answer client env =>
    simp only [machine, next]
    split
    · rename_i request next running
      have meets := keeps.running client _ running
      rw [resume_server]
      refine ⟨kept env _ request enabled sound, Keeps.resume ?_ client
        (meets _ (answers env _ request enabled sound))⟩
      exact ⟨keeps.running, keeps.replied⟩
    · exact ⟨sound, keeps⟩

end Runs

/-! ## Servers that answer alike -/

section Refinement

variable {σ' : Type} {server : Server ε σ ρ ω} {server' : Server ε σ' ρ ω}
  {script : C → Program ρ ω α} {admissible : ε → Prop}

/-- The same clients, with the same programs and replies, of two servers. -/
structure Matches (R : σ → σ' → Prop) (s : System ι σ ρ ω α) (t : System ι σ' ρ ω α) : Prop where
  servers : R s.server t.server
  clients : s.clients = t.clients
  replies : s.replies = t.replies

theorem Matches.resume {R : σ → σ' → Prop} {s : System ι σ ρ ω α} {t : System ι σ' ρ ω α}
    (h : Matches R s t) (client : ι) (p : Program ρ ω α) :
    Matches R (s.resume client p) (t.resume client p) := by
  obtain ⟨servers, clients, replies⟩ := h
  cases p with
  | done a => exact ⟨servers, by simp [System.resume, clients], by simp [System.resume, replies]⟩
  | issue request next => exact ⟨servers, by simp [System.resume, clients], replies⟩

/-- Clients cannot tell servers that answer alike. -/
theorem matches_of_answers {R : σ → σ' → Prop}
    (alike : ∀ env s t r, admissible env → R s t →
      (server env s r).2 = (server' env t r).2 ∧ R (server env s r).1 (server' env t r).1)
    {s : System ι σ ρ ω α} {t : System ι σ' ρ ω α} {events : List (Event ι ε C)}
    (start : Matches R s t) (allowed : (machine server script admissible).Allowed s events) :
    (machine server' script admissible).Allowed t events ∧
      Matches R ((machine server script admissible).run s events)
        ((machine server' script admissible).run t events) := by
  induction events generalizing s t with
  | nil => exact ⟨trivial, start⟩
  | cons event rest ih =>
    have stepped : Matches R (next server script s event) (next server' script t event) := by
      cases event with
      | begin client call => exact start.resume client (script call)
      | answer client env =>
        simp only [next, start.clients]
        split
        · rename_i request following _
          obtain ⟨same, related⟩ := alike env s.server t.server request allowed.1 start.servers
          rw [same]
          refine Matches.resume ?_ client _
          exact ⟨related, rfl, start.replies⟩
        · exact start
    have enabled : Enabled admissible t event := by
      have here : Enabled admissible s event := allowed.1
      cases event with
      | begin client call =>
        change t.clients client = none
        rw [← start.clients]
        exact here
      | answer client env => exact here
    obtain ⟨more, reached⟩ := ih stepped allowed.2
    exact ⟨⟨enabled, more⟩, reached⟩

end Refinement

end LibraryPrograms
