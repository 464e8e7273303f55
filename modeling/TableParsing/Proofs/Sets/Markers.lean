import TableParsing.Proofs.Grammar.Derivation
import TableParsing.Proofs.Sets.Rules

/- Epsilon markers among the symbols of an alternative. The body of an alternative does without
   them, but the walks that compute FIRST and FOLLOW come past them and note that the alternative
   can vanish. A marker is harmless if that is true: what is behind it derives the empty string. In
   a grammar with harmless markers the walks find an epsilon exactly where a sequence vanishes. -/
namespace TableParsing

variable {g : Grammar}

/-- The symbols of a sequence without the epsilon markers. -/
def visible (symbols : List Symbol) : List Symbol := symbols.filter (· ≠ Symbol.epsilon)

@[simp] theorem visible_nil : visible [] = [] := rfl

@[simp] theorem visible_marker (rest : List Symbol) :
    visible (Symbol.epsilon :: rest) = visible rest := by
  simp [visible]

theorem visible_cons {s : Symbol} (shown : s ≠ Symbol.epsilon) (rest : List Symbol) :
    visible (s :: rest) = s :: visible rest := by
  simp [visible, shown]

@[simp] theorem visible_append (left right : List Symbol) :
    visible (left ++ right) = visible left ++ visible right :=
  List.filter_append left right

theorem mem_visible {symbols : List Symbol} {s : Symbol} :
    s ∈ visible symbols ↔ s ∈ symbols ∧ s ≠ Symbol.epsilon := by
  simp [visible]

@[simp] theorem visible_rhs (p : Production) : visible p.rhs = p.body := rfl

theorem body_of_rhs {p : Production} {before rest : List Symbol} {s : Symbol}
    (split : p.rhs = before ++ s :: rest) (shown : s ≠ Symbol.epsilon) :
    p.body = visible before ++ s :: visible rest := by
  rw [← visible_rhs, split, visible_append, visible_cons shown]

namespace Grammar

/-- The symbols of a sequence, its markers apart, derive the empty string. -/
def Vanishes (g : Grammar) (symbols : List Symbol) : Prop := g.Derives (visible symbols) []

/-- A walk comes to the end of a sequence: FIRST starts before it, FOLLOW after its last
nonterminal, and a terminal stops both. -/
def Passable (g : Grammar) (symbols : List Symbol) : Prop :=
  ∀ s ∈ (visible symbols).getLast?, s ∈ g.nonterminals

/-- What is behind a marker that some walk comes past can vanish. -/
def HarmlessMarkers (g : Grammar) : Prop :=
  ∀ p ∈ g.productions, ∀ before rest, p.rhs = before ++ Symbol.epsilon :: rest →
    g.Passable before → g.Vanishes rest

/-- An epsilon marker is the only symbol of its alternative. -/
def SoleMarkers (g : Grammar) : Prop :=
  ∀ p ∈ g.productions, Symbol.epsilon ∈ p.rhs → p.rhs = [Symbol.epsilon]

theorem passable_nil : g.Passable [] := by
  intro s hs
  cases hs

theorem passable_nonterminal {s : Symbol} (d : g.Declared) (member : s ∈ g.nonterminals)
    (before : List Symbol) : g.Passable (before ++ [s]) := by
  intro x hx
  rw [visible_append, visible_cons (d.nonterminal_ne_epsilon member), visible_nil,
    List.getLast?_append_cons, List.getLast?_singleton, Option.mem_some_iff] at hx
  exact hx ▸ member

theorem SoleMarkers.harmless (sole : g.SoleMarkers) : g.HarmlessMarkers := by
  intro p rule before rest split _
  have alone := sole p rule (split ▸ by simp)
  obtain ⟨_, rfl⟩ : before = [] ∧ rest = [] := by
    rw [alone] at split
    cases before with
    | nil => exact ⟨rfl, (List.cons.inj split).2.symm⟩
    | cons s before => simp at split
  exact .refl

theorem Vanishes.skip {p : Production} (rule : p ∈ g.productions) (own : g.Vanishes p.rhs)
    (rest : List Symbol) : g.Derives (p.lhs :: rest) rest := by
  have first : g.Derives (p.lhs :: rest) (p.body ++ rest) :=
    .single (Rewrites.replace [] rest p rule)
  have inner : g.Derives (p.body ++ rest) rest := by
    simpa using Derives.extend own [] rest
  exact first.trans inner

theorem Vanishes.cons {p : Production} (rule : p ∈ g.productions) {rest : List Symbol}
    (own : g.Vanishes p.rhs) (later : g.Vanishes rest) : g.Derives (p.lhs :: visible rest) [] :=
  (own.skip rule (visible rest)).trans later

/-- Where a walk over the rest of an alternative finds an epsilon, the rest can vanish. -/
theorem HarmlessMarkers.vanishes (harmless : g.HarmlessMarkers) (d : g.Declared) {p : Production}
    (rule : p ∈ g.productions) {before rest : List Symbol} (split : p.rhs = before ++ rest)
    (passable : g.Passable before) (leads : Leads g rest Symbol.epsilon) : g.Vanishes rest := by
  generalize marker : Symbol.epsilon = x at leads
  induction leads generalizing p before with
  | done => exact .refl
  | marker rest =>
    have behind := harmless p rule before rest split passable
    rw [Vanishes, visible_marker]
    exact behind
  | @afterMarker rest x _ _ =>
    have behind := harmless p rule before rest split passable
    rw [Vanishes, visible_marker]
    exact behind
  | plain shown => exact absurd marker.symm shown
  | within _ _ shown => exact absurd marker.symm shown
  | @after q rest x rule' vanishes later ihv ihl =>
    subst marker
    have member := d.lhs_mem rule'
    have own : g.Vanishes q.rhs := ihv rule' (List.nil_append _).symm passable_nil rfl
    have split' : p.rhs = (before ++ [q.lhs]) ++ rest := by simpa using split
    have behind := ihl rule split' (passable_nonterminal d member before) rfl
    rw [Vanishes, visible_cons (d.nonterminal_ne_epsilon member)]
    exact own.cons rule' behind

end Grammar
end TableParsing
