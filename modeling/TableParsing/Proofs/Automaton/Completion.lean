import TableParsing.Proofs.Automaton.Validity
import TableParsing.Proofs.Sets.Lookahead

/- Valid items with what completes them. If a string read so far can be completed to a sentence,
   some item is valid after it together with a string of terminals that may come behind. In a
   grammar whose nonterminals are all productive, whatever the automaton reads can be completed; if
   they are all reachable as well, what follows a nonterminal does so in some sentence. -/
namespace TableParsing

namespace Grammar

/-- Every nonterminal derives a string of terminals. -/
def Productive (g : Grammar) : Prop :=
  ∀ s ∈ g.nonterminals, ∃ w, (∀ x ∈ w, x ∈ g.terminals) ∧ g.Derives [s] w

/-- Every nonterminal occurs in what the start symbol derives. -/
def Reachable (g : Grammar) : Prop :=
  ∀ s ∈ g.nonterminals, ∃ before after, g.Derives [g.start] (before ++ s :: after)

end Grammar

variable {g : Grammar}

theorem exists_forest (productive : g.Productive) {symbols : List Symbol}
    (known : ∀ s ∈ symbols, s ∈ g.terminals ∨ s ∈ g.nonterminals) :
    ∃ f : Forest, f.roots = symbols ∧ f.Conforms g := by
  induction symbols with
  | nil => exact ⟨.nil, rfl, trivial⟩
  | cons s rest ih =>
    obtain ⟨f, roots, conforms⟩ := ih fun x hx => known x (List.mem_cons_of_mem s hx)
    rcases known s List.mem_cons_self with terminal | member
    · exact ⟨.leaf s f, congrArg (s :: ·) roots, terminal, conforms⟩
    · obtain ⟨w, terminals, derives⟩ := productive s member
      obtain ⟨e, he, hroots, _⟩ := Grammar.forest_of_derives derives terminals
      refine ⟨e ++ f, ?_, (Forest.conforms_append e f).mpr ⟨he, conforms⟩⟩
      rw [Forest.roots_append, hroots, roots]
      rfl

/-- The items that are valid after a string of symbols, with a string of terminals that completes
what is around them. -/
inductive Awaits (g : Grammar) :
    List Symbol → Symbol → List Symbol → List Symbol → List Symbol → Prop where
  | start : Awaits g [] (Augmented.ofGrammar g).start [] [g.start] []
  | predict {read : List Symbol} {lhs : Symbol} {done after : List Symbol} {p : Production}
      {f : Forest} (caller : Awaits g read lhs done (p.lhs :: f.roots) after)
      (rule : p ∈ g.productions) (conforms : f.Conforms g) :
      Awaits g read p.lhs [] p.body (f.yield ++ after)
  | advance {read : List Symbol} {lhs s : Symbol} {done todo after : List Symbol}
      (item : Awaits g read lhs done (s :: todo) after) :
      Awaits g (read ++ [s]) lhs (done ++ [s]) todo after

namespace Awaits

variable {read : List Symbol} {lhs : Symbol} {done todo more after : List Symbol}

theorem valid (h : Awaits g read lhs done todo after) : Valid g read lhs done todo := by
  induction h with
  | start => exact .start
  | predict _ rule _ ih => exact .predict ih rule
  | advance _ ih => exact .advance ih

theorem extend (h : Awaits g read lhs done (more ++ todo) after) :
    Awaits g (read ++ more) lhs (done ++ more) todo after := by
  induction more generalizing read done with
  | nil => simpa only [List.append_nil, List.nil_append] using h
  | cons s more ih =>
    have tail := ih (.advance h)
    simpa only [List.append_assoc, List.singleton_append] using tail

theorem terminals (h : Awaits g read lhs done todo after) : ∀ s ∈ after, s ∈ g.terminals := by
  induction h with
  | start => simp
  | predict _ _ conforms ih =>
    intro s hs
    rcases List.mem_append.mp hs with hs | hs
    · exact Forest.yield_terminals conforms s hs
    · exact ih s hs
  | advance _ ih => exact ih

theorem start_after (d : g.Declared)
    (h : Awaits g read (Augmented.ofGrammar g).start done todo after) : after = [] := by
  generalize hl : (Augmented.ofGrammar g).start = outer at h
  induction h with
  | start => rfl
  | predict _ rule _ _ => exact absurd (hl ▸ d.lhs_mem rule) Augmented.start_not_nonterminal
  | advance _ ih => exact ih hl

/-- What comes behind an item is in the FOLLOW set of its left-hand side. -/
theorem admits (d : g.Declared) (h : Awaits g read lhs done todo after)
    (ne : lhs ≠ (Augmented.ofGrammar g).start) :
    Admits (FirstFollow.ofGrammar g).follow lhs (after ++ [Symbol.endMarker]) := by
  induction h with
  | start => exact absurd rfl ne
  | @predict read lhs done after p f caller rule conforms ih =>
    by_cases outer : lhs = (Augmented.ofGrammar g).start
    · subst outer
      have whole := caller.valid.start_body d
      obtain ⟨rfl, single, none⟩ : done = [] ∧ p.lhs = g.start ∧ f.roots = [] := by
        cases done with
        | nil => exact ⟨rfl, List.cons.inj whole⟩
        | cons s done => simp at whole
      have last : f = .nil := by
        cases f with
        | nil => rfl
        | leaf | node => cases none
      rw [last, caller.start_after d, single]
      exact admits_start []
    · obtain ⟨q, inner, rfl, split⟩ := caller.valid.rule_of_ne_start outer
      rw [List.append_assoc]
      exact admits_after d inner split (d.lhs_mem rule) conforms (ih outer)
  | advance _ ih => exact ih ne

/-- What is behind a forest that an item expects is in the FOLLOW sets of its roots. -/
theorem fits (d : g.Declared) {f : Forest} (h : Awaits g read lhs done f.roots after)
    (conforms : f.Conforms g) :
    f.Fits (FirstFollow.ofGrammar g).follow (after ++ [Symbol.endMarker]) := by
  by_cases outer : lhs = (Augmented.ofGrammar g).start
  · subst outer
    rw [h.start_after d, List.nil_append]
    have whole := h.valid.start_body d
    cases done with
    | nil => exact fits_start whole []
    | cons s done =>
      have none : f.roots = [] := by
        have tail := (List.cons.inj whole).2
        exact (List.append_eq_nil_iff.mp tail).2
      cases f with
      | nil => trivial
      | leaf | node => cases none
  · obtain ⟨p, rule, rfl, split⟩ := h.valid.rule_of_ne_start outer
    exact fits_body d rule split conforms (h.admits d outer)

end Awaits

/-- A string of symbols, read from the left, can be completed to a sentence by terminals. -/
def Completes (g : Grammar) (read rest : List Symbol) : Prop :=
  ∃ (lhs : Symbol) (done : List Symbol) (f : Forest) (after : List Symbol),
    Awaits g read lhs done f.roots after ∧ f.Conforms g ∧ rest = f.yield ++ after

theorem Completes.terminals {read rest : List Symbol} (h : Completes g read rest) :
    ∀ s ∈ rest, s ∈ g.terminals := by
  obtain ⟨lhs, done, f, after, item, conforms, rfl⟩ := h
  intro s hs
  rcases List.mem_append.mp hs with hs | hs
  · exact Forest.yield_terminals conforms s hs
  · exact item.terminals s hs

theorem Completes.valid {read rest : List Symbol} (h : Completes g read rest) :
    ∃ lhs done todo, Valid g read lhs done todo := by
  obtain ⟨lhs, done, f, after, item, _⟩ := h
  exact ⟨lhs, done, f.roots, item.valid⟩

theorem awaits_last {read done todo after : List Symbol} {lhs s : Symbol}
    (h : Awaits g (read ++ [s]) lhs done todo after) {f : Forest} (roots : f.roots = todo)
    (conforms : f.Conforms g) :
    ∃ (outer : Symbol) (before : List Symbol) (e : Forest) (behind : List Symbol),
      Awaits g read outer before (s :: e.roots) behind ∧ e.Conforms g ∧
        f.yield ++ after = e.yield ++ behind := by
  generalize hr : read ++ [s] = whole at h
  induction h generalizing f with
  | start => simp at hr
  | @predict whole lhs done after p e caller rule inner ih =>
    -- the forest becomes the children of a node that the caller expects
    obtain ⟨outer, before, last, behind, item, hlast, same⟩ :=
      ih (f := .node p f e) rfl ⟨rule, roots, conforms, inner⟩ hr
    refine ⟨outer, before, last, behind, item, hlast, ?_⟩
    rw [← same, Forest.yield, List.append_assoc]
  | @advance whole lhs x done todo after item ih =>
    obtain ⟨rfl, same⟩ := List.append_inj' hr rfl
    obtain rfl : s = x := by simpa using same
    exact ⟨lhs, done, f, after, roots ▸ item, conforms, rfl⟩

/-- Where a left-hand side can be read and completed, its body can be read instead. -/
theorem Completes.awaits_body {read rest : List Symbol} {p : Production}
    (h : Completes g (read ++ [p.lhs]) rest) (rule : p ∈ g.productions) :
    Awaits g read p.lhs [] p.body rest := by
  obtain ⟨lhs, done, f, after, item, conforms, rfl⟩ := h
  obtain ⟨outer, before, e, behind, caller, inner, same⟩ := awaits_last item rfl conforms
  rw [same]
  exact .predict caller rule inner

theorem Completes.body {read rest : List Symbol} {p : Production}
    (h : Completes g (read ++ [p.lhs]) rest) (rule : p ∈ g.productions) :
    Completes g (read ++ p.body) rest := by
  have item : Awaits g read p.lhs [] (p.body ++ []) rest := by
    rw [List.append_nil]
    exact h.awaits_body rule
  exact ⟨p.lhs, p.body, .nil, rest, item.extend, trivial, rfl⟩

theorem Completes.inside {read rest before : List Symbol} {p : Production} {s : Symbol} {f : Forest}
    (h : Completes g (read ++ [p.lhs]) rest) (rule : p ∈ g.productions)
    (split : p.body = before ++ s :: f.roots) (conforms : f.Conforms g) :
    Completes g ((read ++ before) ++ [s]) (f.yield ++ rest) := by
  have item := h.awaits_body rule
  rw [split] at item
  exact ⟨p.lhs, _, f, rest, .advance item.extend, conforms, rfl⟩

section Productive

variable (d : g.Declared) (productive : g.Productive)
include d productive

theorem exists_awaits {read done todo : List Symbol} {lhs : Symbol}
    (h : Valid g read lhs done todo) : ∃ after, Awaits g read lhs done todo after := by
  induction h with
  | start => exact ⟨[], .start⟩
  | @predict read lhs done todo p caller rule ih =>
    obtain ⟨after, item⟩ := ih
    obtain ⟨f, rfl, conforms⟩ := exists_forest productive
      fun s hs => caller.mem_todo d (List.mem_cons_of_mem p.lhs hs)
    exact ⟨_, .predict item rule conforms⟩
  | advance _ ih =>
    obtain ⟨after, item⟩ := ih
    exact ⟨after, .advance item⟩

theorem exists_completes {m : Automaton} (e : m.Finished (.ofGrammar g) g.symbols)
    {stack : List Int} {read : List Symbol} (path : m.Path stack read) :
    ∃ rest, Completes g read rest := by
  obtain ⟨n, below, rfl⟩ := path.cons
  obtain ⟨_, _, _, i, member⟩ := path.state e
  obtain ⟨lhs, done, todo, rfl, item⟩ := Automaton.valid_of_mem d member
  obtain ⟨after, awaits⟩ := exists_awaits d productive item
  obtain ⟨f, rfl, conforms⟩ := exists_forest productive fun s hs => item.mem_todo d hs
  exact ⟨_, lhs, done, f, after, awaits, conforms, rfl⟩

theorem exists_completes_of_derives {u : List Symbol} (derives : g.Derives [g.start] u)
    {s : Symbol} (hs : s ∈ u) : ∃ read rest, Completes g (read ++ [s]) rest := by
  induction derives generalizing s with
  | refl =>
    obtain rfl := List.mem_singleton.mp hs
    exact ⟨[], [], _, _, .nil, [], .advance .start, trivial, rfl⟩
  | tail _ step ih =>
    obtain ⟨before, after, p, rule⟩ := step
    rw [List.mem_append, List.mem_append] at hs
    rcases hs with (hs | inside) | hs
    · exact ih (List.mem_append_left _ hs)
    · obtain ⟨read, rest, completes⟩ := ih (List.mem_append_right _ List.mem_cons_self)
      obtain ⟨left, right, split⟩ := List.append_of_mem inside
      obtain ⟨f, rfl, conforms⟩ := exists_forest productive fun x hx =>
        d.mem_body rule (split ▸ List.mem_append_right left (List.mem_cons_of_mem s hx))
      exact ⟨_, _, completes.inside rule split conforms⟩
    · exact ih (List.mem_append_right _ (List.mem_cons_of_mem _ hs))

end Productive

theorem exists_of_mem_firstOf {first : SymbolSets} {symbols : List Symbol} {x : Symbol}
    (hx : x ∈ firstOf g first symbols) (visible : x ≠ Symbol.epsilon) :
    ∃ s ∈ symbols, s ≠ Symbol.epsilon ∧
      (s ∈ g.nonterminals ∧ x ∈ first.getD s ∅ ∨ s ∉ g.nonterminals) := by
  induction symbols with
  | nil =>
    simp only [firstOf, SortedSet.mem_ofList, List.mem_singleton] at hx
    exact absurd hx visible
  | cons s rest ih =>
    have later : x ∈ firstOf g first rest → ∃ y ∈ s :: rest, y ≠ Symbol.epsilon ∧
        (y ∈ g.nonterminals ∧ x ∈ first.getD y ∅ ∨ y ∉ g.nonterminals) := by
      intro tail
      obtain ⟨y, hy, found⟩ := ih tail
      exact ⟨y, List.mem_cons_of_mem s hy, found⟩
    unfold firstOf at hx
    split at hx
    · exact later ((SortedSet.mem_insert.mp hx).resolve_left visible)
    · rename_i marker
      split at hx
      · rename_i declared
        have member := isNonterminal_iff.mp declared
        dsimp only at hx
        split at hx
        · rcases SortedSet.mem_union.mp hx with own | tail
          · exact ⟨s, List.mem_cons_self, marker, Or.inl ⟨member, (SortedSet.mem_erase.mp own).1⟩⟩
          · exact later tail
        · exact ⟨s, List.mem_cons_self, marker, Or.inl ⟨member, hx⟩⟩
      · rename_i other
        rw [isNonterminal_iff] at other
        exact ⟨s, List.mem_cons_self, marker, Or.inr other⟩

/-- A nonterminal derives a string that is not empty. -/
def Shows (g : Grammar) (s : Symbol) : Prop :=
  ∃ f : Forest, f.roots = [s] ∧ f.Conforms g ∧ f.yield ≠ []

theorem Known.declared {symbols : List Symbol} (known : Known g symbols) :
    ∀ s ∈ symbols.filter (· ≠ Symbol.epsilon), s ∈ g.terminals ∨ s ∈ g.nonterminals := by
  intro s hs
  obtain ⟨member, visible⟩ := List.mem_filter.mp hs
  exact (known s member).resolve_left (of_decide_eq_true visible)

section Contexts

variable (productive : g.Productive)
include productive

theorem exists_visible_forest {symbols : List Symbol}
    (known : ∀ s ∈ symbols, s ∈ g.terminals ∨ s ∈ g.nonterminals) {s : Symbol}
    (hs : s ∈ symbols) (shows : Shows g s) :
    ∃ f : Forest, f.roots = symbols ∧ f.Conforms g ∧ f.yield ≠ [] := by
  obtain ⟨before, after, rfl⟩ := List.append_of_mem hs
  obtain ⟨a, ha, hca⟩ := exists_forest productive fun x hx =>
    known x (List.mem_append_left _ hx)
  obtain ⟨b, hb, hcb⟩ := exists_forest productive fun x hx =>
    known x (List.mem_append_right _ (List.mem_cons_of_mem s hx))
  obtain ⟨f, roots, conforms, visible⟩ := shows
  refine ⟨a ++ (f ++ b), ?_, ?_, ?_⟩
  · simp [ha, hb, roots]
  · simp [hca, hcb, conforms]
  · simp [visible]

/-- A sequence whose FIRST set shows a terminal derives a string that is not empty. -/
theorem exists_forest_of_firstOf {first : SymbolSets}
    (sound : ∀ s x, x ∈ first.getD s ∅ → x ≠ Symbol.epsilon → Shows g s) {symbols : List Symbol}
    (known : Known g symbols) {x : Symbol} (hx : x ∈ firstOf g first symbols)
    (visible : x ≠ Symbol.epsilon) :
    ∃ f : Forest, f.roots = symbols.filter (· ≠ Symbol.epsilon) ∧ f.Conforms g ∧
      f.yield ≠ [] := by
  obtain ⟨s, hs, marker, found⟩ := exists_of_mem_firstOf hx visible
  refine exists_visible_forest productive known.declared (s := s) ?_ ?_
  · exact List.mem_filter.mpr ⟨hs, decide_eq_true marker⟩
  · rcases found with ⟨_, own⟩ | other
    · exact sound s x own visible
    · have terminal : s ∈ g.terminals :=
        ((known s hs).resolve_left marker).resolve_right other
      exact ⟨.leaf s .nil, rfl, ⟨terminal, trivial⟩, by simp [Forest.yield]⟩

theorem shows_of_firstSets (d : g.Declared) {s x : Symbol} (hx : x ∈ (firstSets g).getD s ∅)
    (visible : x ≠ Symbol.epsilon) : Shows g s := by
  have sound : Growth.Holds (fun s x => x ≠ Symbol.epsilon → Shows g s) (firstSets g) := by
    refine firstSets_holds ?_
    rintro sets target more before ⟨p, rule, rfl, rfl⟩ x hx visible
    obtain ⟨f, roots, conforms, some⟩ :=
      exists_forest_of_firstOf productive before (known_rhs d rule) hx visible
    refine ⟨.node p f .nil, rfl, ⟨rule, roots, conforms, trivial⟩, ?_⟩
    simpa [Forest.yield] using some
  exact sound s x hx visible

/-- What follows a nonterminal other than the end marker does so in a sentence. -/
theorem exists_context (d : g.Declared) (reachable : g.Reachable) {s x : Symbol}
    (hx : x ∈ (FirstFollow.ofGrammar g).follow.getD s ∅) (visible : x ≠ Symbol.endMarker) :
    ∃ read rest, rest ≠ [] ∧ Completes g (read ++ [s]) rest := by
  have sound : Growth.Holds (fun s x => x ≠ Symbol.endMarker →
      ∃ read rest, rest ≠ [] ∧ Completes g (read ++ [s]) rest)
      (followSets g (firstSets g)) := by
    refine followSets_holds ?_ (fun absent => absurd rfl absent)
    rintro sets target more before ⟨p, rule, left, right, split, member, rfl⟩ x hx visible
    have known : Known g right := by
      intro y hy
      exact known_rhs d rule y (split ▸ List.mem_append_right left (List.mem_cons_of_mem _ hy))
    have marker : target ≠ Symbol.epsilon := by
      intro eq
      exact d.epsilon_not_nonterminal (eq ▸ member)
    have body : p.body = left.filter (· ≠ Symbol.epsilon) ++ target ::
        right.filter (· ≠ Symbol.epsilon) := by
      unfold Production.body
      rw [split, List.filter_append, List.filter_cons_of_pos (by simp [marker])]
    rcases mem_aheadOf.mp hx with ⟨ahead, shown⟩ | ⟨_, inherited⟩
    · obtain ⟨f, roots, conforms, some⟩ := exists_forest_of_firstOf productive
        (fun s x => shows_of_firstSets productive d) known ahead shown
      obtain ⟨u, v, derives⟩ := reachable p.lhs (d.lhs_mem rule)
      obtain ⟨read, rest, completes⟩ := exists_completes_of_derives d productive derives
        (List.mem_append_right u List.mem_cons_self)
      rw [← roots] at body
      exact ⟨_, f.yield ++ rest, by simp [some], completes.inside rule body conforms⟩
    · obtain ⟨read, rest, some, completes⟩ := before p.lhs x inherited visible
      obtain ⟨f, roots, conforms⟩ := exists_forest productive known.declared
      rw [← roots] at body
      exact ⟨_, f.yield ++ rest, by simp [some], completes.inside rule body conforms⟩
  exact sound s x hx visible

end Contexts

end TableParsing
