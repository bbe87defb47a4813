import SourceMend.Pattern.Match

/-!
# What a node spans

`Spans` is what it means for a node to match a part of a text, without any
preference among matches.  The text is cut in three: what is before the match,
the match, and what is after it.  As in the search, what a node takes and what
it asserts are parameters, so that one relation serves a compiled pattern and a
pattern fitted to a text.

`Node.orderly` is the condition under which the numbers of the places of choice
never stop a match that `Spans` allows.
-/

namespace SourceMend.Pattern

/-- The texts of the groups of a match by number, latest first. -/
abbrev Captures := List (Nat × Text)

section

variable {α β : Type} (takes : α → Text → Text → Prop) (asserts : β → Text → Text → Prop)

/-- That a node matches a text between two others, capturing some groups.  A round of a loop takes
a character. -/
inductive Spans : Node α β → Text → Text → Text → Captures → Prop where
  | skip {pre post : Text} : Spans .skip pre [] post []
  | take {a : α} {c : Char} {pre post : Text} : takes a pre (c :: post) →
      Spans (.take a) pre [c] post []
  | check {b : β} {pre post : Text} : asserts b pre post → Spans (.check b) pre [] post []
  | group {i : Nat} {n : Node α β} {pre mid post : Text} {gs : Captures} :
      Spans n pre mid post gs → Spans (.group i n) pre mid post ((i, mid) :: gs)
  | seq {m n : Node α β} {pre x y post : Text} {gs hs : Captures} :
      Spans m pre x (y ++ post) gs → Spans n (pre ++ x) y post hs →
      Spans (.seq m n) pre (x ++ y) post (hs ++ gs)
  | first {place : Nat} {m n : Node α β} {pre mid post : Text} {gs : Captures} :
      Spans m pre mid post gs → Spans (.fork place m n) pre mid post gs
  | second {place : Nat} {m n : Node α β} {pre mid post : Text} {gs : Captures} :
      Spans n pre mid post gs → Spans (.fork place m n) pre mid post gs
  | leave {place : Nat} {greedy : Bool} {n : Node α β} {pre post : Text} :
      Spans (.loop place greedy n) pre [] post []
  | round {place : Nat} {greedy : Bool} {n : Node α β} {pre x y post : Text} {gs hs : Captures} :
      x ≠ [] → Spans n pre x (y ++ post) gs → Spans (.loop place greedy n) (pre ++ x) y post hs →
      Spans (.loop place greedy n) pre (x ++ y) post (hs ++ gs)
  | once {place : Nat} {greedy : Bool} {n : Node α β} {pre mid post : Text} {gs : Captures} :
      Spans n pre mid post gs → Spans (.again place greedy n) pre mid post gs
  | further {place : Nat} {greedy : Bool} {n : Node α β} {pre x y post : Text}
      {gs hs : Captures} :
      x ≠ [] → Spans n pre x (y ++ post) gs →
      Spans (.again place greedy n) (pre ++ x) y post hs →
      Spans (.again place greedy n) pre (x ++ y) post (hs ++ gs)

end

variable {α β γ δ : Type} {takes : α → Text → Text → Prop} {asserts : β → Text → Text → Prop}

/-- What a node with parts replaced spans. -/
theorem spans_map {takes : γ → Text → Text → Prop} {asserts : δ → Text → Text → Prop}
    {f : α → γ} {g : β → δ} {n : Node α β} {pre mid post : Text} {gs : Captures} :
    Spans takes asserts (n.map f g) pre mid post gs
      ↔ Spans (fun a => takes (f a)) (fun b => asserts (g b)) n pre mid post gs := by
  constructor
  · intro h
    generalize hm : n.map f g = m at h
    induction h generalizing n with
    | skip => cases n <;> cases hm; exact .skip
    | take h => cases n <;> cases hm; exact .take h
    | check h => cases n <;> cases hm; exact .check h
    | group _ ih => cases n <;> cases hm; exact .group (ih rfl)
    | seq _ _ ihm ihn => cases n <;> cases hm; exact .seq (ihm rfl) (ihn rfl)
    | first _ ih => cases n <;> cases hm; exact .first (ih rfl)
    | second _ ih => cases n <;> cases hm; exact .second (ih rfl)
    | leave => cases n <;> cases hm; exact .leave
    | round hx _ _ ihm ihn => cases n <;> cases hm; exact .round hx (ihm rfl) (ihn rfl)
    | once _ ih => cases n <;> cases hm; exact .once (ih rfl)
    | further hx _ _ ihm ihn => cases n <;> cases hm; exact .further hx (ihm rfl) (ihn rfl)
  · intro h
    induction h with
    | skip => exact .skip
    | take h => exact .take h
    | check h => exact .check h
    | group _ ih => exact .group ih
    | seq _ _ ihm ihn => exact .seq ihm ihn
    | first _ ih => exact .first ih
    | second _ ih => exact .second ih
    | leave => exact .leave
    | round hx _ _ ihm ihn => exact .round hx ihm ihn
    | once _ ih => exact .once ih
    | further hx _ _ ihm ihn => exact .further hx ihm ihn

namespace Node

/-! ## Lengths -/

/-- A number of characters that every match of a node has at least. -/
def least : Node α β → Nat
  | skip => 0
  | never => 0
  | take _ => 1
  | check _ => 0
  | group _ n => n.least
  | seq m n => m.least + n.least
  | fork _ m n => min m.least n.least
  | loop _ _ _ => 0
  | again _ _ n => n.least

theorem least_le {n : Node α β} {pre mid post : Text} {gs : Captures}
    (h : Spans takes asserts n pre mid post gs) : n.least ≤ mid.length := by
  induction h with
  | skip => exact Nat.le_refl 0
  | take => exact Nat.le_refl 1
  | check => exact Nat.le_refl 0
  | group _ ih => exact ih
  | seq _ _ ihm ihn =>
    simp only [least, List.length_append]
    omega
  | first _ ih =>
    simp only [least]
    omega
  | second _ ih =>
    simp only [least]
    omega
  | leave => exact Nat.le_refl 0
  | round => exact Nat.zero_le _
  | once _ ih => exact ih
  | further _ _ _ ihm _ =>
    simp only [least, List.length_append] at ihm ⊢
    omega

/-- A node with an empty match needs no character. -/
theorem least_eq_zero {n : Node α β} {pre mid post : Text} {gs : Captures}
    (h : Spans takes asserts n pre mid post gs) (hmid : mid = []) : n.least = 0 := by
  subst hmid
  exact Nat.le_zero.1 (least_le h)

theorem ne_nil_of_least {n : Node α β} {pre mid post : Text} {gs : Captures}
    (h : Spans takes asserts n pre mid post gs) (hn : 0 < n.least) : mid ≠ [] :=
  fun hmid => Nat.ne_of_gt hn (least_eq_zero h hmid)

/-! ## Places of choice -/

/-- The places that a match can pass before it takes a character. -/
def entries : Node α β → List Nat
  | skip => []
  | never => []
  | take _ => []
  | check _ => []
  | group _ n => n.entries
  | seq m n => m.entries ++ if m.least = 0 then n.entries else []
  | fork place m n => place :: (m.entries ++ n.entries)
  | loop place _ n => place :: n.entries
  | again _ _ n => n.entries

/-- The places that a match can pass after it has taken its last character. -/
def exits : Node α β → List Nat
  | skip => []
  | never => []
  | take _ => []
  | check _ => []
  | group _ n => n.exits
  | seq m n => n.exits ++ if n.least = 0 then m.exits else []
  | fork place m n => place :: (m.exits ++ n.exits)
  | loop place _ n => place :: n.exits
  | again place _ n => place :: n.exits

/-- Whether a match never comes to a place that it has passed since it took a character. -/
def orderly : Node α β → Bool
  | skip => true
  | never => true
  | take _ => true
  | check _ => true
  | group _ n => n.orderly
  | seq m n => m.orderly && n.orderly && decide (∀ p ∈ m.exits, p ∉ n.entries)
  | fork place m n =>
    m.orderly && n.orderly && decide (place ∉ m.entries) && decide (place ∉ n.entries)
  | loop place _ n =>
    n.orderly && decide (place ∉ n.exits) && decide (∀ p ∈ place :: n.exits, p ∉ n.entries)
  | again place _ n =>
    n.orderly && decide (0 < n.least) && decide (place ∉ n.exits)
      && decide (∀ p ∈ place :: n.exits, p ∉ n.entries)

section

variable (f : α → γ) (g : β → δ)

@[simp] theorem least_map (n : Node α β) : (n.map f g).least = n.least := by
  induction n <;> simp_all [map, least]

@[simp] theorem entries_map (n : Node α β) : (n.map f g).entries = n.entries := by
  induction n <;> simp_all [map, entries]

@[simp] theorem exits_map (n : Node α β) : (n.map f g).exits = n.exits := by
  induction n <;> simp_all [map, exits]

@[simp] theorem orderly_map (n : Node α β) : (n.map f g).orderly = n.orderly := by
  induction n <;> simp_all [map, orderly]

end

end Node
end SourceMend.Pattern
