import Mathlib.Data.List.Nodup
import TableParsing.Proofs.Sets.Markers

/- One grammar written in two ways: with other names for its symbols, or with other markers in its
   alternatives. The rules keep their order, and a body becomes the body of the same rule. What is
   built by adding rules stays so: recasting commutes with adding a rule. -/
namespace TableParsing

/-- Another name for each symbol. Kinds are kept, and the reserved symbols are. -/
structure Renaming where
  symbol : Symbol → Symbol
  injective : Function.Injective symbol
  kind : ∀ s, (symbol s).kind = s.kind
  epsilon : symbol Symbol.epsilon = Symbol.epsilon
  endMarker : symbol Symbol.endMarker = Symbol.endMarker

/-- Another name for each symbol and another form for each alternative, with the same body up to the
names. -/
structure Recasting extends Renaming where
  alternative : List Symbol → List Symbol
  body : ∀ alt, visible (alternative alt) = (visible alt).map symbol
  nonempty : ∀ alt, alt ≠ [] → alternative alt ≠ []

theorem writeEntry_map {κ ν κ' ν' : Type} [DecidableEq κ] [DecidableEq κ'] {f : κ → κ'}
    (injective : Function.Injective f) (h : ν → ν') (k : κ) (v : ν) (es : List (κ × ν)) :
    writeEntry (f k) (h v) (es.map fun e => (f e.1, h e.2)) =
      (writeEntry k v es).map fun e => (f e.1, h e.2) := by
  induction es with
  | nil => rfl
  | cons e rest ih =>
    by_cases same : e.1 = k
    · simp [writeEntry, same]
    · have apart : f e.1 ≠ f k := fun eq => same (injective eq)
      simp [writeEntry, same, apart, ih]

namespace Renaming

variable (ρ : Renaming)

theorem symbol_inj {a b : Symbol} : ρ.symbol a = ρ.symbol b ↔ a = b := ρ.injective.eq_iff

theorem symbol_eq_epsilon {s : Symbol} : ρ.symbol s = Symbol.epsilon ↔ s = Symbol.epsilon := by
  conv_lhs => rw [← ρ.epsilon]
  exact ρ.symbol_inj

theorem symbol_eq_endMarker {s : Symbol} :
    ρ.symbol s = Symbol.endMarker ↔ s = Symbol.endMarker := by
  conv_lhs => rw [← ρ.endMarker]
  exact ρ.symbol_inj

theorem map_inj {u v : List Symbol} : u.map ρ.symbol = v.map ρ.symbol ↔ u = v :=
  (List.map_injective_iff.mpr ρ.injective).eq_iff

theorem visible_map (symbols : List Symbol) :
    visible (symbols.map ρ.symbol) = (visible symbols).map ρ.symbol := by
  induction symbols with
  | nil => rfl
  | cons s rest ih =>
    by_cases marker : s = Symbol.epsilon
    · simp [marker, ρ.epsilon, ih]
    · have shown : ρ.symbol s ≠ Symbol.epsilon := fun eq => marker (ρ.symbol_eq_epsilon.mp eq)
      simp [visible_cons marker, visible_cons shown, ih]

/-- A renaming as a recasting: it renames the symbols of an alternative one by one. -/
def recasting : Recasting where
  toRenaming := ρ
  alternative := List.map ρ.symbol
  body := ρ.visible_map
  nonempty := by simp

end Renaming

/-- The recasting that leaves out the markers of alternatives which are not empty. -/
def unmarking : Recasting where
  symbol := id
  injective := Function.injective_id
  kind := fun _ => rfl
  epsilon := rfl
  endMarker := rfl
  alternative := fun alt => Grammar.storedAlternative (visible alt)
  body := by
    intro alt
    unfold Grammar.storedAlternative
    split
    · rename_i empty
      rw [List.isEmpty_iff.mp empty]
      rfl
    · simp [visible]
  nonempty := by
    intro alt _
    unfold Grammar.storedAlternative
    split
    · simp
    · rename_i some
      simpa using some

namespace Recasting

variable (r : Recasting) {g : Grammar}

def production (p : Production) : Production := ⟨r.symbol p.lhs, r.alternative p.rhs⟩

@[simp] theorem production_body (p : Production) :
    (r.production p).body = p.body.map r.symbol := r.body p.rhs

def symbols (s : SymbolSet) : SymbolSet := SortedSet.ofList (s.toList.map r.symbol)

theorem mem_symbols {s : SymbolSet} {x : Symbol} :
    x ∈ r.symbols s ↔ ∃ y ∈ s, r.symbol y = x := by
  rw [symbols, SortedSet.mem_ofList, List.mem_map]
  rfl

@[simp] theorem symbol_mem_symbols {s : SymbolSet} {x : Symbol} :
    r.symbol x ∈ r.symbols s ↔ x ∈ s := by
  rw [mem_symbols]
  constructor
  · rintro ⟨y, hy, same⟩
    exact r.injective same ▸ hy
  · intro hx
    exact ⟨x, hx, rfl⟩

def rules (rules : OrderedMap Symbol (List Production)) : OrderedMap Symbol (List Production) where
  entries := rules.entries.map fun e => (r.symbol e.1, e.2.map r.production)
  nodup := by
    rw [List.map_map]
    change (rules.entries.map (r.symbol ∘ Prod.fst)).Nodup
    rw [← List.map_map]
    exact rules.nodup.map r.injective

def grammar (g : Grammar) : Grammar :=
  { start := r.symbol g.start
    nonterminals := r.symbols g.nonterminals
    terminals := r.symbols g.terminals
    rules := r.rules g.rules
    revision := g.revision }

@[simp] theorem symbol_mem_nonterminals {s : Symbol} :
    r.symbol s ∈ (r.grammar g).nonterminals ↔ s ∈ g.nonterminals := r.symbol_mem_symbols

@[simp] theorem symbol_mem_terminals {s : Symbol} :
    r.symbol s ∈ (r.grammar g).terminals ↔ s ∈ g.terminals := r.symbol_mem_symbols

theorem productions_grammar : (r.grammar g).productions = g.productions.map r.production := by
  simp [grammar, rules, Grammar.productions, OrderedMap.values, List.map_flatten, List.map_map,
    Function.comp_def]

theorem mem_productions {p : Production} :
    p ∈ (r.grammar g).productions ↔ ∃ q ∈ g.productions, r.production q = p := by
  rw [productions_grammar, List.mem_map]

theorem grammar_ofStart (start : Symbol) :
    r.grammar (.ofStart start) = .ofStart (r.symbol start) := by
  have single : r.symbols (SortedSet.ofList [start]) = SortedSet.ofList [r.symbol start] := by
    refine SortedSet.ext fun x => ?_
    simp [mem_symbols, eq_comm]
  have none : r.symbols ∅ = ∅ := by
    refine SortedSet.ext fun x => ?_
    simp [mem_symbols]
  unfold grammar Grammar.ofStart
  dsimp only
  rw [single, none]
  rfl

def alternatives (alts : List (List Symbol)) : List (List Symbol) :=
  alts.map fun alt => r.alternative (Grammar.storedAlternative alt)

theorem productionsOf_alternatives (lhs : Symbol) (alts : List (List Symbol)) :
    Grammar.productionsOf (r.symbol lhs) (r.alternatives alts) =
      (Grammar.productionsOf lhs alts).map r.production := by
  have stored : ∀ alt, Grammar.storedAlternative (r.alternative (Grammar.storedAlternative alt)) =
      r.alternative (Grammar.storedAlternative alt) := by
    intro alt
    have some : r.alternative (Grammar.storedAlternative alt) ≠ [] := by
      refine r.nonempty _ ?_
      unfold Grammar.storedAlternative
      split
      · simp
      · rename_i some
        simpa using some
    rw [Grammar.storedAlternative, if_neg (by simpa using some)]
  simp [Grammar.productionsOf, alternatives, production, stored]

/-- An alternative keeps its symbols apart from the markers. -/
theorem mem_alternative {alt : List Symbol} {x : Symbol} (shown : x ≠ Symbol.epsilon) :
    x ∈ r.alternative alt ↔ ∃ y ∈ alt, r.symbol y = x := by
  have same : x ∈ r.alternative alt ↔ x ∈ visible (r.alternative alt) := by
    simp [mem_visible, shown]
  rw [same, r.body, List.mem_map]
  constructor
  · rintro ⟨y, hy, rfl⟩
    exact ⟨y, (mem_visible.mp hy).1, rfl⟩
  · rintro ⟨y, hy, rfl⟩
    exact ⟨y, mem_visible.mpr ⟨hy, fun eq => shown (r.symbol_eq_epsilon.mpr eq)⟩, rfl⟩

theorem mem_rhs {p : Production} {x : Symbol} (shown : x ≠ Symbol.epsilon) :
    x ∈ (r.production p).rhs ↔ ∃ y ∈ p.rhs, r.symbol y = x := r.mem_alternative shown

section Define

variable (lhs : Symbol) (alts : List (List Symbol))

theorem rules_define : r.rules (g.define lhs alts).rules =
    ((r.grammar g).define (r.symbol lhs) (r.alternatives alts)).rules := by
  have entries := writeEntry_map r.injective (List.map r.production) lhs
    (Grammar.productionsOf lhs alts) g.rules.entries
  rw [← r.productionsOf_alternatives] at entries
  unfold rules Grammar.define OrderedMap.put
  dsimp only
  congr 1
  exact entries.symm

theorem nonterminals_define : r.symbols (g.define lhs alts).nonterminals =
    ((r.grammar g).define (r.symbol lhs) (r.alternatives alts)).nonterminals := by
  refine SortedSet.ext fun x => ?_
  rw [Grammar.mem_nonterminals_define, r.productionsOf_alternatives, mem_symbols]
  constructor
  · rintro ⟨y, hy, rfl⟩
    rcases Grammar.mem_nonterminals_define.mp hy with rfl | old | ⟨kind, p, hp, hs⟩
    · exact Or.inl rfl
    · exact Or.inr (Or.inl (r.symbol_mem_nonterminals.mpr old))
    · have shown : r.symbol y ≠ Symbol.epsilon := by
        intro eq
        rw [r.symbol_eq_epsilon.mp eq] at kind
        cases kind
      refine Or.inr (Or.inr ⟨(r.kind y).trans kind, _, List.mem_map_of_mem hp, ?_⟩)
      exact (r.mem_rhs shown).mpr ⟨y, hs, rfl⟩
  · rintro (rfl | old | ⟨kind, p, hp, hs⟩)
    · exact ⟨lhs, Grammar.mem_nonterminals_define.mpr (Or.inl rfl), rfl⟩
    · obtain ⟨y, hy, rfl⟩ := r.mem_symbols.mp old
      exact ⟨y, Grammar.mem_nonterminals_define.mpr (Or.inr (Or.inl hy)), rfl⟩
    · obtain ⟨q, hq, rfl⟩ := List.mem_map.mp hp
      have shown : x ≠ Symbol.epsilon := by
        rintro rfl
        cases kind
      obtain ⟨y, hy, rfl⟩ := (r.mem_rhs shown).mp hs
      refine ⟨y, Grammar.mem_nonterminals_define.mpr (Or.inr (Or.inr ⟨?_, q, hq, hy⟩)), rfl⟩
      exact (r.kind y).symm.trans kind

theorem productions_define :
    ((r.grammar g).define (r.symbol lhs) (r.alternatives alts)).productions =
      (g.define lhs alts).productions.map r.production := by
  rw [← r.productions_grammar]
  unfold Grammar.productions
  rw [← r.rules_define]
  rfl

theorem terminals_define : r.symbols (g.define lhs alts).terminals =
    ((r.grammar g).define (r.symbol lhs) (r.alternatives alts)).terminals := by
  refine SortedSet.ext fun x => ?_
  rw [Grammar.mem_terminals_define, r.productions_define, ← r.nonterminals_define, mem_symbols]
  constructor
  · rintro ⟨y, hy, rfl⟩
    obtain ⟨⟨p, hp, hs⟩, shown, other⟩ := Grammar.mem_terminals_define.mp hy
    have shown' : r.symbol y ≠ Symbol.epsilon := fun eq => shown (r.symbol_eq_epsilon.mp eq)
    refine ⟨⟨_, List.mem_map_of_mem hp, (r.mem_rhs shown').mpr ⟨y, hs, rfl⟩⟩, shown', ?_⟩
    rw [r.symbol_mem_symbols]
    exact other
  · rintro ⟨⟨p, hp, hs⟩, shown, other⟩
    obtain ⟨q, hq, rfl⟩ := List.mem_map.mp hp
    obtain ⟨y, hy, rfl⟩ := (r.mem_rhs shown).mp hs
    rw [r.symbol_mem_symbols] at other
    have shown' : y ≠ Symbol.epsilon := fun eq => shown (r.symbol_eq_epsilon.mpr eq)
    exact ⟨y, Grammar.mem_terminals_define.mpr ⟨⟨q, hq, hy⟩, shown', other⟩, rfl⟩

/-- Recasting a grammar with a rule added is adding the recast rule. -/
theorem grammar_define : r.grammar (g.define lhs alts) =
    (r.grammar g).define (r.symbol lhs) (r.alternatives alts) := by
  have rules := @rules_define r g lhs alts
  have nonterminals := @nonterminals_define r g lhs alts
  have terminals := @terminals_define r g lhs alts
  change Grammar.mk _ (r.symbols _) (r.symbols _) (r.rules _) _ = Grammar.mk _ _ _ _ _
  rw [rules, nonterminals, terminals]
  rfl

end Define

theorem endMarker_not_mem {alt : List Symbol} (clean : Symbol.endMarker ∉ alt) :
    Symbol.endMarker ∉ r.alternative alt := by
  intro marked
  obtain ⟨y, hy, same⟩ := (r.mem_alternative (by decide)).mp marked
  rw [r.symbol_eq_endMarker.mp same] at hy
  exact clean hy

theorem built_grammar (built : g.Built) : (r.grammar g).Built := by
  induction built with
  | @new start g made =>
    unfold Grammar.new at made
    split at made
    · rename_i kind
      cases made
      rw [grammar_ofStart]
      exact Grammar.built_ofStart ((r.kind start).trans kind)
    · cases made
  | @add g h lhs alts _ added ih =>
    obtain ⟨kind, clean, rfl⟩ := Grammar.add_eq_ok added
    rw [grammar_define]
    refine Grammar.built_define ih ((r.kind lhs).trans kind) ?_
    intro alt member
    obtain ⟨other, hother, rfl⟩ := List.mem_map.mp member
    refine r.endMarker_not_mem ?_
    unfold Grammar.storedAlternative
    split
    · decide
    · exact clean other hother

end Recasting
end TableParsing
