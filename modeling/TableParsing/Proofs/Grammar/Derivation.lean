import Mathlib.Logic.Relation
import TableParsing.ParseResult
import TableParsing.Proofs.Grammar.Declared

/- Derivations and parse trees. A step replaces a nonterminal by the body of one of its
   alternatives. Parse trees come as forests, the first tree with its children before the trees
   after it, so that one induction covers a tree and the sequence it stands in. Main statement:
   the sentences of a grammar are the yields of its parse trees. -/
namespace TableParsing

namespace Grammar

inductive Rewrites (g : Grammar) : List Symbol → List Symbol → Prop where
  | replace (before after : List Symbol) (p : Production) (rule : p ∈ g.productions) :
      Rewrites g (before ++ p.lhs :: after) (before ++ p.body ++ after)

def Derives (g : Grammar) : List Symbol → List Symbol → Prop := Relation.ReflTransGen g.Rewrites

/-- A string of terminals that the start symbol derives. -/
def Sentence (g : Grammar) (w : List Symbol) : Prop :=
  (∀ s ∈ w, s ∈ g.terminals) ∧ g.Derives [g.start] w

end Grammar

/-- A sequence of trees whose leaves are symbols and whose inner nodes are productions. -/
inductive Forest where
  | nil
  | leaf (s : Symbol) (rest : Forest)
  | node (p : Production) (children rest : Forest)
  deriving DecidableEq, Repr

namespace Forest

/-- The symbols at the roots. -/
def roots : Forest → List Symbol
  | nil => []
  | leaf s rest => s :: rest.roots
  | node p _ rest => p.lhs :: rest.roots

def yield : Forest → List Symbol
  | nil => []
  | leaf s rest => s :: rest.yield
  | node _ children rest => children.yield ++ rest.yield

/-- The productions, each before those below it. -/
def preorder : Forest → List Production
  | nil => []
  | leaf _ rest => rest.preorder
  | node p children rest => p :: (children.preorder ++ rest.preorder)

/-- The productions, each after those below it. -/
def postorder : Forest → List Production
  | nil => []
  | leaf _ rest => rest.postorder
  | node p children rest => children.postorder ++ p :: rest.postorder

def append : Forest → Forest → Forest
  | nil, f => f
  | leaf s rest, f => leaf s (rest.append f)
  | node p children rest, f => node p children (rest.append f)

instance : Append Forest := ⟨append⟩

/-- Leaves are terminals, and the children of a node spell the body of its production. -/
def Conforms (g : Grammar) : Forest → Prop
  | nil => True
  | leaf s rest => s ∈ g.terminals ∧ rest.Conforms g
  | node p children rest =>
    p ∈ g.productions ∧ children.roots = p.body ∧ children.Conforms g ∧ rest.Conforms g

/-- The parse trees of a string: one root, the start symbol, and the string at the leaves. -/
def Parses (g : Grammar) (w : List Symbol) (f : Forest) : Prop :=
  f.roots = [g.start] ∧ f.Conforms g ∧ f.yield = w

def leaves : List Symbol → Forest
  | [] => nil
  | s :: rest => leaf s (leaves rest)

@[simp] theorem nil_append (f : Forest) : nil ++ f = f := rfl

@[simp] theorem leaf_append (s : Symbol) (rest f : Forest) :
    leaf s rest ++ f = leaf s (rest ++ f) := rfl

@[simp] theorem node_append (p : Production) (children rest f : Forest) :
    node p children rest ++ f = node p children (rest ++ f) := rfl

@[simp] theorem roots_append (a b : Forest) : (a ++ b).roots = a.roots ++ b.roots := by
  induction a with
  | nil => rfl
  | leaf s rest ih => simp [roots, ih]
  | node p children rest _ ih => simp [roots, ih]

@[simp] theorem yield_append (a b : Forest) : (a ++ b).yield = a.yield ++ b.yield := by
  induction a with
  | nil => rfl
  | leaf s rest ih => simp [yield, ih]
  | node p children rest _ ih => simp [yield, ih]

@[simp] theorem preorder_append (a b : Forest) :
    (a ++ b).preorder = a.preorder ++ b.preorder := by
  induction a with
  | nil => rfl
  | leaf s rest ih => simp [preorder, ih]
  | node p children rest _ ih => simp [preorder, ih]

@[simp] theorem postorder_append (a b : Forest) :
    (a ++ b).postorder = a.postorder ++ b.postorder := by
  induction a with
  | nil => rfl
  | leaf s rest ih => simp [postorder, ih]
  | node p children rest _ ih => simp [postorder, ih]

@[simp] theorem conforms_append {g : Grammar} (a b : Forest) :
    (a ++ b).Conforms g ↔ a.Conforms g ∧ b.Conforms g := by
  induction a with
  | nil => simp [Conforms]
  | leaf s rest ih => simp [Conforms, ih, and_assoc]
  | node p children rest _ ih => simp [Conforms, ih, and_assoc]

theorem append_of_roots {f : Forest} {left right : List Symbol}
    (h : f.roots = left ++ right) : ∃ a b, f = a ++ b ∧ a.roots = left ∧ b.roots = right := by
  induction left generalizing f with
  | nil => exact ⟨nil, f, rfl, rfl, h⟩
  | cons s left ih =>
    cases f with
    | nil => simp [roots] at h
    | leaf x rest =>
      simp only [roots, List.cons_append, List.cons.injEq] at h
      obtain ⟨a, b, rfl, ha, hb⟩ := ih h.2
      exact ⟨leaf x a, b, rfl, by simp [roots, ha, h.1], hb⟩
    | node p children rest =>
      simp only [roots, List.cons_append, List.cons.injEq] at h
      obtain ⟨a, b, rfl, ha, hb⟩ := ih h.2
      exact ⟨node p children a, b, rfl, by simp [roots, ha, h.1], hb⟩

theorem yield_terminals {g : Grammar} {f : Forest} (h : f.Conforms g) :
    ∀ s ∈ f.yield, s ∈ g.terminals := by
  induction f with
  | nil => simp [yield]
  | leaf x rest ih =>
    intro s hs
    rcases List.mem_cons.mp hs with rfl | hs
    · exact h.1
    · exact ih h.2 s hs
  | node p children rest ihc ihr =>
    intro s hs
    rcases List.mem_append.mp hs with hs | hs
    · exact ihc h.2.2.1 s hs
    · exact ihr h.2.2.2 s hs

theorem leaves_conforms {g : Grammar} {w : List Symbol} (h : ∀ s ∈ w, s ∈ g.terminals) :
    (leaves w).Conforms g ∧ (leaves w).roots = w ∧ (leaves w).yield = w := by
  induction w with
  | nil => exact ⟨trivial, rfl, rfl⟩
  | cons s w ih =>
    obtain ⟨hc, hr, hy⟩ := ih fun x hx => h x (List.mem_cons_of_mem s hx)
    exact ⟨⟨h s List.mem_cons_self, hc⟩, congrArg (s :: ·) hr, congrArg (s :: ·) hy⟩

/-- Two forests over one sequence of roots are told apart by their productions in preorder. -/
theorem eq_of_preorder {g : Grammar} (d : g.Declared) {a b : Forest} (ha : a.Conforms g)
    (hb : b.Conforms g) (roots : a.roots = b.roots) {xs ys : List Production}
    (same : a.preorder ++ xs = b.preorder ++ ys) : a = b ∧ xs = ys := by
  induction a generalizing b xs ys with
  | nil =>
    cases b with
    | nil => exact ⟨rfl, same⟩
    | leaf | node => cases roots
  | leaf s rest ih =>
    cases b with
    | nil => cases roots
    | leaf s' rest' =>
      obtain ⟨rfl, tail⟩ := List.cons.inj roots
      obtain ⟨rfl, left⟩ := ih ha.2 hb.2 tail same
      exact ⟨rfl, left⟩
    | node p children rest' =>
      obtain ⟨rfl, _⟩ := List.cons.inj roots
      exact absurd (d.lhs_mem hb.1) (d.terminal_not_nonterminal ha.1)
  | node p children rest ihc ihr =>
    cases b with
    | nil => cases roots
    | leaf s rest' =>
      obtain ⟨rfl, _⟩ := List.cons.inj roots
      exact absurd (d.lhs_mem ha.1) (d.terminal_not_nonterminal hb.1)
    | node q children' rest' =>
      obtain ⟨_, bodyA, insideA, laterA⟩ := ha
      obtain ⟨_, bodyB, insideB, laterB⟩ := hb
      obtain ⟨_, tail⟩ := List.cons.inj roots
      simp only [preorder, List.cons_append, List.append_assoc, List.cons.injEq] at same
      obtain ⟨rfl, same⟩ := same
      obtain ⟨rfl, behind⟩ := ihc insideA insideB (bodyA.trans bodyB.symm) same
      obtain ⟨rfl, left⟩ := ihr laterA laterB tail behind
      exact ⟨rfl, left⟩

end Forest

theorem undeclared?_eq_none {g : Grammar} {tokens : List Symbol} :
    undeclared? g tokens = none ↔ ∀ s ∈ tokens, s ∈ g.terminals := by
  unfold undeclared? Grammar.isTerminal
  simp only [List.find?_eq_none, Bool.not_eq_true', decide_eq_false_iff_not, Decidable.not_not]

namespace Grammar

theorem Rewrites.extend {g : Grammar} {u v : List Symbol} (h : g.Rewrites u v)
    (left right : List Symbol) : g.Rewrites (left ++ u ++ right) (left ++ v ++ right) := by
  obtain ⟨before, after, p, rule⟩ := h
  have step := Rewrites.replace (left ++ before) (after ++ right) p rule
  simpa only [List.append_assoc, List.cons_append] using step

theorem Derives.extend {g : Grammar} {u v : List Symbol} (h : g.Derives u v)
    (left right : List Symbol) : g.Derives (left ++ u ++ right) (left ++ v ++ right) := by
  induction h with
  | refl => exact .refl
  | tail _ step ih => exact ih.tail (step.extend left right)

theorem derives_of_forest {g : Grammar} {f : Forest} (h : f.Conforms g) :
    g.Derives f.roots f.yield := by
  induction f with
  | nil => exact .refl
  | leaf s rest ih =>
    have tail := (ih h.2).extend [s] []
    simp only [List.append_nil] at tail
    exact tail
  | node p children rest ihc ihr =>
    obtain ⟨rule, body, hc, hr⟩ := h
    have first : g.Derives (p.lhs :: rest.roots) (p.body ++ rest.roots) :=
      .single (Rewrites.replace [] rest.roots p rule)
    have inner := (ihc hc).extend [] rest.roots
    have outer := (ihr hr).extend children.yield []
    rw [body] at inner
    simp only [List.nil_append, List.append_nil] at inner outer
    exact first.trans (inner.trans outer)

theorem forest_of_derives {g : Grammar} {u w : List Symbol} (h : g.Derives u w)
    (terminal : ∀ s ∈ w, s ∈ g.terminals) :
    ∃ f : Forest, f.Conforms g ∧ f.roots = u ∧ f.yield = w := by
  induction h using Relation.ReflTransGen.head_induction_on with
  | refl => exact ⟨Forest.leaves w, Forest.leaves_conforms terminal⟩
  | head step _ ih =>
    obtain ⟨f, conforms, roots, yield⟩ := ih
    obtain ⟨before, after, p, rule⟩ := step
    -- the forest below the replaced body becomes the children of a new node
    obtain ⟨front, c, rfl, hfront, hc⟩ := Forest.append_of_roots roots
    obtain ⟨a, b, rfl, ha, hb⟩ := Forest.append_of_roots hfront
    simp only [Forest.conforms_append] at conforms
    refine ⟨a ++ Forest.node p b c, ?_, ?_, ?_⟩
    · rw [Forest.conforms_append]
      exact ⟨conforms.1.1, rule, hb, conforms.1.2, conforms.2⟩
    · simp only [Forest.roots_append, Forest.roots, ha, hc]
    · simpa only [Forest.yield_append, Forest.yield, List.append_assoc] using yield

theorem sentence_iff_parses {g : Grammar} {w : List Symbol} :
    g.Sentence w ↔ ∃ f : Forest, f.Parses g w := by
  constructor
  · rintro ⟨terminal, derives⟩
    obtain ⟨f, conforms, roots, yield⟩ := forest_of_derives derives terminal
    exact ⟨f, roots, conforms, yield⟩
  · rintro ⟨f, roots, conforms, rfl⟩
    exact ⟨Forest.yield_terminals conforms, roots ▸ derives_of_forest conforms⟩

end Grammar
end TableParsing
