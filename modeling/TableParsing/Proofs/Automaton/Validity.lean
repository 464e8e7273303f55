import TableParsing.Proofs.Automaton.States

/- Which items a state holds. An item is valid after a string of symbols if it is the start item,
   is called for by a valid item, or comes from a valid item by moving the dot over the last symbol.
   The state after a string holds exactly the items valid after it. A stack of the shift-reduce
   engine is a path of transitions from the first state, and its labels spell such a string. -/
namespace TableParsing

variable {g : Grammar}

/-- The items that are valid after a string of symbols. -/
inductive Valid (g : Grammar) : List Symbol → Symbol → List Symbol → List Symbol → Prop where
  | start : Valid g [] (Augmented.ofGrammar g).start [] [g.start]
  | predict {read : List Symbol} {lhs : Symbol} {done todo : List Symbol} {p : Production}
      (caller : Valid g read lhs done (p.lhs :: todo)) (rule : p ∈ g.productions) :
      Valid g read p.lhs [] p.body
  | advance {read : List Symbol} {lhs s : Symbol} {done todo : List Symbol}
      (item : Valid g read lhs done (s :: todo)) : Valid g (read ++ [s]) lhs (done ++ [s]) todo

namespace Valid

variable {read : List Symbol} {lhs : Symbol} {done todo more : List Symbol}

/-- The two parts of a valid item make up the body of a production. -/
theorem body (h : Valid g read lhs done todo) :
    lhs = (Augmented.ofGrammar g).start ∧ done ++ todo = [g.start] ∨
      ∃ p ∈ g.productions, p.lhs = lhs ∧ p.body = done ++ todo := by
  induction h with
  | start => exact Or.inl ⟨rfl, rfl⟩
  | @predict _ _ _ _ p _ rule _ => exact Or.inr ⟨p, rule, rfl, rfl⟩
  | advance _ ih => simpa only [List.append_assoc, List.singleton_append] using ih

theorem rule_of_ne_start (h : Valid g read lhs done todo)
    (ne : lhs ≠ (Augmented.ofGrammar g).start) :
    ∃ p ∈ g.productions, p.lhs = lhs ∧ p.body = done ++ todo :=
  h.body.resolve_left fun both => ne both.1

theorem start_body (d : g.Declared) (h : Valid g read (Augmented.ofGrammar g).start done todo) :
    done ++ todo = [g.start] := by
  rcases h.body with ⟨_, whole⟩ | ⟨p, rule, left, _⟩
  · exact whole
  · exact absurd (left ▸ d.lhs_mem rule) Augmented.start_not_nonterminal

theorem mem_todo (d : g.Declared) (h : Valid g read lhs done todo) {s : Symbol} (hs : s ∈ todo) :
    s ∈ g.terminals ∨ s ∈ g.nonterminals := by
  rcases h.body with ⟨_, whole⟩ | ⟨p, rule, _, whole⟩
  · have first : s ∈ [g.start] := whole ▸ List.mem_append_right done hs
    rw [List.mem_singleton.mp first]
    exact Or.inr d.start_mem
  · exact d.mem_body rule (whole ▸ List.mem_append_right done hs)

theorem mem_symbols (d : g.Declared) (h : Valid g read lhs done todo) {s : Symbol}
    (hs : s ∈ todo) : s ∈ g.symbols := by
  rcases h.mem_todo d hs with terminal | nonterminal
  · exact List.mem_append_left _ terminal
  · exact List.mem_append_right _ (List.mem_cons_of_mem _ nonterminal)

theorem extend (h : Valid g read lhs done (more ++ todo)) :
    Valid g (read ++ more) lhs (done ++ more) todo := by
  induction more generalizing read done with
  | nil => simpa only [List.append_nil, List.nil_append] using h
  | cons s more ih =>
    have tail := ih (.advance h)
    simpa only [List.append_assoc, List.singleton_append] using tail

theorem completed (h : Valid g read lhs [] todo) : Valid g (read ++ todo) lhs todo [] := by
  have item : Valid g read lhs [] (todo ++ []) := by
    rw [List.append_nil]
    exact h
  exact item.extend

/-- What is before the dot has been read last, and the item was valid without it. -/
theorem split (h : Valid g read lhs done todo) :
    ∃ before, read = before ++ done ∧ Valid g before lhs [] (done ++ todo) := by
  induction h with
  | start => exact ⟨[], rfl, .start⟩
  | @predict read _ _ _ p caller rule _ =>
    exact ⟨read, (List.append_nil read).symm, .predict caller rule⟩
  | advance _ ih =>
    obtain ⟨before, rfl, item⟩ := ih
    refine ⟨before, by simp only [List.append_assoc], ?_⟩
    simpa only [List.append_assoc, List.singleton_append] using item

/-- An initial item has been called for, unless it is the start item. -/
theorem caller (h : Valid g read lhs [] todo) (ne : lhs ≠ (Augmented.ofGrammar g).start) :
    ∃ outer before after, Valid g read outer before (lhs :: after) := by
  generalize hd : ([] : List Symbol) = empty at h
  cases h with
  | start => exact absurd rfl ne
  | predict caller _ => exact ⟨_, _, _, caller⟩
  | advance item => simp at hd

theorem start_read (d : g.Declared) (h : Valid g read (Augmented.ofGrammar g).start done todo) :
    read = done := by
  obtain ⟨before, rfl, item⟩ := h.split
  generalize hl : (Augmented.ofGrammar g).start = outer at item
  generalize hd : ([] : List Symbol) = empty at item
  generalize done ++ todo = whole at item
  cases item with
  | start => rfl
  | predict _ rule => exact absurd (hl ▸ d.lhs_mem rule) Augmented.start_not_nonterminal
  | advance => simp at hd

/-- Of the synthetic start symbol, the item is valid that shows what has been read. -/
theorem start_iff (d : g.Declared) :
    Valid g read (Augmented.ofGrammar g).start done todo ↔
      read = done ∧ done ++ todo = [g.start] := by
  constructor
  · intro h
    exact ⟨h.start_read d, h.start_body d⟩
  · rintro ⟨rfl, whole⟩
    have initial : Valid g [] (Augmented.ofGrammar g).start [] (read ++ todo) := whole ▸ .start
    exact initial.extend

end Valid

namespace Automaton

theorem ofProduction_start (d : g.Declared) :
    Item.ofProduction (Augmented.ofGrammar g).startProduction =
      .dotted (Augmented.ofGrammar g).start [] [g.start] := by
  rw [Item.ofProduction_eq_dotted, Augmented.startProduction_body d]
  rfl

theorem isNonterminal_ofGrammar {s : Symbol} (ne : s ≠ (Augmented.ofGrammar g).start) :
    (Augmented.ofGrammar g).isNonterminal s = true ↔ s ∈ g.nonterminals := by
  unfold Augmented.isNonterminal Grammar.isNonterminal
  rw [Bool.or_eq_true, decide_eq_true_eq, decide_eq_true_eq]
  constructor
  · rintro (eq | member)
    · exact absurd eq ne
    · exact member
  · exact Or.inr

theorem productionsFor_ofGrammar {s : Symbol} (ne : s ≠ (Augmented.ofGrammar g).start) :
    (Augmented.ofGrammar g).productionsFor s = g.productionsFor s := by
  unfold Augmented.productionsFor
  rw [if_neg ne]
  rfl

theorem valid_of_called (d : g.Declared) {read : List Symbol} {items : List Item}
    (known : ∀ i ∈ items, ∃ lhs done todo, i = .dotted lhs done todo ∧
      Valid g read lhs done todo) {i : Item} (h : Called (.ofGrammar g) items i) :
    ∃ lhs done todo, i = .dotted lhs done todo ∧ Valid g read lhs done todo := by
  induction h with
  | given member => exact known _ member
  | @predicted i j _ call ih =>
    obtain ⟨lhs, done, todo, rfl, item⟩ := ih
    obtain ⟨s, next, declared, p, hp, rfl⟩ := mem_predictions.mp call
    cases todo with
    | nil => simp at next
    | cons x rest =>
      obtain rfl : x = s := by simpa using next
      have ne := Augmented.start_name_free (item.mem_todo d List.mem_cons_self).symm
      rw [productionsFor_ofGrammar ne, d.mem_productionsFor] at hp
      obtain ⟨rule, rfl⟩ := hp
      exact ⟨p.lhs, [], p.body, rfl, .predict item rule⟩

theorem valid_of_mem (d : g.Declared) {read : List Symbol} {i : Item}
    (h : i ∈ stateAfter (.ofGrammar g) read) :
    ∃ lhs done todo, i = .dotted lhs done todo ∧ Valid g read lhs done todo := by
  induction read using List.reverseRecOn generalizing i with
  | nil =>
    refine valid_of_called d ?_ (mem_closure.mp h)
    intro j hj
    refine ⟨(Augmented.ofGrammar g).start, [], [g.start], ?_, .start⟩
    rw [List.mem_singleton.mp hj, ofProduction_start d]
  | append_singleton read s ih =>
    rw [stateAfter_concat] at h
    refine valid_of_called d ?_ (mem_goto.mp h)
    intro j hj
    obtain ⟨k, hk, _, next, rfl⟩ := mem_advanceOver.mp hj
    obtain ⟨lhs, done, todo, rfl, item⟩ := ih hk
    cases todo with
    | nil => simp at next
    | cons x rest =>
      obtain rfl : x = s := by simpa using next
      exact ⟨lhs, done ++ [x], rest, Item.advance_dotted, .advance item⟩

theorem mem_stateAfter_of_prediction {a : Augmented} {read : List Symbol} {i j : Item}
    (h : i ∈ stateAfter a read) (call : j ∈ i.predictions a) : j ∈ stateAfter a read := by
  induction read using List.reverseRecOn with
  | nil => exact mem_closure.mpr (.predicted (mem_closure.mp h) call)
  | append_singleton read s _ =>
    rw [stateAfter_concat] at h ⊢
    exact mem_goto.mpr (.predicted (mem_goto.mp h) call)

/-- The state after a string holds the items that are valid after it. -/
theorem mem_stateAfter (d : g.Declared) {read done todo : List Symbol} {lhs : Symbol} :
    Item.dotted lhs done todo ∈ stateAfter (.ofGrammar g) read ↔ Valid g read lhs done todo := by
  constructor
  · intro h
    obtain ⟨lhs', done', todo', same, item⟩ := valid_of_mem d h
    obtain ⟨rfl, rfl, rfl⟩ := Item.dotted_inj.mp same
    exact item
  · intro h
    induction h with
    | start =>
      exact mem_closure.mpr (.given (List.mem_singleton.mpr (ofProduction_start d).symm))
    | @predict read lhs done todo p item rule ih =>
      -- the symbol called for is not the added start, so its productions are the grammar's own
      have ne := Augmented.start_name_free (item.mem_todo d List.mem_cons_self).symm
      refine mem_stateAfter_of_prediction ih (mem_predictions.mpr ⟨p.lhs, by simp, ?_, p, ?_, rfl⟩)
      · exact (isNonterminal_ofGrammar ne).mpr (d.lhs_mem rule)
      · rw [productionsFor_ofGrammar ne]
        exact d.mem_productionsFor.mpr ⟨rule, rfl⟩
    | @advance read lhs s done todo _ ih =>
      rw [stateAfter_concat]
      refine mem_goto.mpr (.given (mem_advanceOver.mpr ⟨_, ih, by simp, by simp, ?_⟩))
      exact Item.advance_dotted.symm

/-- A stack of state numbers, top first, that follows the transitions from the first state, and
the string of their labels. -/
inductive Path (m : Automaton) : List Int → List Symbol → Prop where
  | base : Path m [0] []
  | step {n : Int} {below : List Int} {read : List Symbol} {s : Symbol} {target : Nat}
      (path : Path m (n :: below) read) (move : m.transitions.get? (n, s) = some target) :
      Path m ((target : Int) :: n :: below) (read ++ [s])

namespace Path

variable {a : Augmented} {m : Automaton} {stack : List Int} {read : List Symbol}

theorem cons (h : Path m stack read) : ∃ n below, stack = n :: below := by
  cases h with
  | base => exact ⟨0, [], rfl⟩
  | step => exact ⟨_, _, rfl⟩

theorem state {symbols : List Symbol} (e : Finished a symbols m) {n : Int} {below : List Int}
    (h : Path m (n :: below) read) :
    ∃ k : Nat, n = k ∧ m.states[k]? = some (stateAfter a read) ∧
      ∃ i, i ∈ stateAfter a read := by
  generalize hs : n :: below = stack at h
  induction h generalizing n below with
  | base =>
    obtain ⟨rfl, _⟩ := List.cons.inj hs
    refine ⟨0, rfl, e.first, Item.ofProduction a.startProduction, ?_⟩
    exact mem_closure.mpr (.given List.mem_cons_self)
  | @step k below read s target _ move ih =>
    obtain ⟨rfl, _⟩ := List.cons.inj hs
    obtain ⟨j, same, here, _⟩ := ih rfl
    obtain ⟨j', items, same', here', entered, inside⟩ := e.sound _ _ _ move
    obtain rfl : j = j' := by
      have := same.symm.trans same'
      omega
    obtain rfl := Option.some.inj (here.symm.trans here')
    rw [stateAfter_concat]
    exact ⟨target, rfl, entered, inside⟩

theorem drop {left : List Symbol} (h : Path m stack (read ++ left)) :
    Path m (stack.drop left.length) read := by
  induction left using List.reverseRecOn generalizing stack with
  | nil => simpa using h
  | append_singleton left s ih =>
    rw [← List.append_assoc] at h
    generalize hr : read ++ left ++ [s] = whole at h
    cases h with
    | base => simp at hr
    | step path move =>
      obtain ⟨rfl, _⟩ := List.append_inj' hr rfl
      have tail := ih path
      rw [List.length_append, List.length_singleton, List.drop_succ_cons]
      exact tail

theorem unique {other : List Int} (h : Path m stack read) (h' : Path m other read) :
    stack = other := by
  induction h generalizing other with
  | base =>
    generalize hr : ([] : List Symbol) = empty at h'
    cases h' with
    | base => rfl
    | step => simp at hr
  | @step n below read s target _ move ih =>
    generalize hr : read ++ [s] = whole at h'
    cases h' with
    | base => simp at hr
    | step path' move' =>
      obtain ⟨rfl, same⟩ := List.append_inj' hr rfl
      obtain rfl : s = _ := by simpa using same
      obtain ⟨rfl, rfl⟩ := List.cons.inj (ih path')
      rw [Option.some.inj (move.symm.trans move')]

end Path

/-- A path can go on over a symbol that some item allows. -/
theorem exists_transition (d : g.Declared) {m : Automaton}
    (e : Finished (.ofGrammar g) g.symbols m) {n : Int} {below : List Int}
    {read done todo : List Symbol} {lhs s : Symbol} (path : Path m (n :: below) read)
    (item : Valid g read lhs done (s :: todo)) :
    ∃ target : Nat, m.transitions.get? (n, s) = some target ∧
      Path m ((target : Int) :: n :: below) (read ++ [s]) := by
  obtain ⟨k, rfl, here, _⟩ := path.state e
  have known : k < m.states.length := (List.getElem?_eq_some_iff.mp here).1
  have next := (mem_stateAfter d).mpr (Valid.advance item)
  rw [stateAfter_concat] at next
  obtain ⟨target, move⟩ := e.complete k s _ ⟨known, item.mem_symbols d List.mem_cons_self⟩ here
    ⟨_, next⟩
  exact ⟨target, move, .step path move⟩

theorem exists_path (d : g.Declared) {m : Automaton} (e : Finished (.ofGrammar g) g.symbols m)
    {read done todo : List Symbol} {lhs : Symbol} (item : Valid g read lhs done todo) :
    ∃ stack, Path m stack read := by
  induction item with
  | start => exact ⟨[0], .base⟩
  | predict _ _ ih => exact ih
  | advance item ih =>
    obtain ⟨stack, path⟩ := ih
    obtain ⟨n, below, rfl⟩ := path.cons
    obtain ⟨target, _, longer⟩ := exists_transition d e path item
    exact ⟨_, longer⟩

end Automaton
end TableParsing
