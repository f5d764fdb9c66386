import VvClient.Proto.Message
import Mathlib.Data.Finset.Basic

/-! The rewriting of registered macro calls in the tokens of another macro call. Of the spans only
those of groups are kept: no other is read. -/
namespace VvClient.Trace

inductive Delimiter
  | parenthesis
  | brace
  | bracket
  | none
  deriving DecidableEq

inductive Spacing
  | alone
  /-- the next token is a punctuation character, with nothing in between -/
  | joint
  deriving DecidableEq

inductive TokenTree (Span : Type)
  | group (delimiter : Delimiter) (span : Span) (stream : List (TokenTree Span))
  | ident (name : String)
  | punct (ch : Char) (spacing : Spacing)
  | literal (text : String)

abbrev TokenStream (Span : Type) := List (TokenTree Span)

/-- A function from the span and the arguments of a macro call to the tokens in its place. -/
abbrev ReplaceFn (Span : Type) := Span → TokenStream Span → TokenStream Span

variable {Span : Type}

structure MacroReplacer (Span : Type) where
  funcs : HashMap String (ReplaceFn Span)

structure Macro (Span : Type) where
  /-- `path.get_ident()` -/
  path : Option String
  span : Span
  tokens : TokenStream Span

inductive NewExpr (Expr Attribute Span : Type)
  | parsed (expr : Expr)
  | mac (attrs : List Attribute) (mac : Macro Span)

namespace MacroReplacer

def add (r : MacroReplacer Span) (name : String) (func : ReplaceFn Span) : MacroReplacer Span :=
  ⟨r.funcs.insert name func⟩

/-- `iter().find(..)`: a map has one entry under a name at most. -/
def getFunc (r : MacroReplacer Span) (ident : String) : Option (ReplaceFn Span) :=
  r.funcs.lookup ident

-- A turn of the loop takes one token, or an identifier with the `!` after it and the token after
-- that. The recursion on the rest of the stream is the loop, that on a group is the call.
mutual
/-- What the loop emits for a token that it takes by itself. -/
def replaceTree (r : MacroReplacer Span) : TokenTree Span → TokenTree Span × Bool
  | .group delimiter span g =>
    (.group delimiter span (r.replaceToken g).1,(r.replaceToken g).2)
  | other => (other,false)

def replaceToken (r : MacroReplacer Span) : List (TokenTree Span) → TokenStream Span × Bool
  | [] => ([],false)
  | .ident id :: .punct '!' _ :: next :: rest =>
    match next with
    | .group delimiter span g =>
      match r.getFunc id with
      | some func => (func span g ++ (r.replaceToken rest).1,true)
      | none =>
        (.ident id :: .punct '!' .alone :: (r.replaceTree (.group delimiter span g)).1 ::
          (r.replaceToken rest).1,
          (r.replaceTree (.group delimiter span g)).2 || (r.replaceToken rest).2)
    -- `iter.next()` has taken `next` as well
    | _ => (.ident id :: .punct '!' .alone :: (r.replaceToken rest).1,(r.replaceToken rest).2)
  | [.ident id,.punct '!' _] => ([.ident id,.punct '!' .alone],false)
  | tt :: rest =>
    ((r.replaceTree tt).1 :: (r.replaceToken rest).1,(r.replaceTree tt).2 || (r.replaceToken rest).2)
end

/-- `syn::parse2` on the tokens that a function gave; it reads a whole expression or fails. -/
def replace {Expr : Type} (parse2 : TokenStream Span → Option Expr) (mac : Macro Span)
    (func : ReplaceFn Span) : Except String Expr :=
  match parse2 (func mac.span mac.tokens) with
  | some newExpr => .ok newExpr
  | none => .error "failed to parse generated tokens into Expr"

/-- The expression to put in the place of the call, if there is a new one; an error is the panic. -/
def tryReplace {Expr Attribute : Type} (r : MacroReplacer Span)
    (parse2 : TokenStream Span → Option Expr) (mac : Macro Span) (attrs : List Attribute) :
    Except String (Option (NewExpr Expr Attribute Span)) :=
  match mac.path.bind r.getFunc with
  | some func => (fun e => some (.parsed e)) <$> replace parse2 mac func
  | none =>
    if !(r.replaceToken mac.tokens).2 then .ok none
    else .ok (some (.mac attrs { mac with tokens := (r.replaceToken mac.tokens).1 }))

/-! What the rewriting is for. -/

mutual
/-- A token with the registered calls inside of it replaced, and how many there were. -/
def rewriteTree (r : MacroReplacer Span) : TokenTree Span → TokenTree Span × ℕ
  | .group delimiter span g => (.group delimiter span (r.rewrite g).1,(r.rewrite g).2)
  | other => (other,0)
termination_by structural t => t

/-- The stream with each registered call replaced, and how many there were. -/
def rewrite (r : MacroReplacer Span) : List (TokenTree Span) → TokenStream Span × ℕ
  | [] => ([],0)
  | .ident name :: .punct '!' spacing :: next :: rest =>
    match next with
    | .group delimiter span args =>
      match r.funcs.lookup name with
      | some func => (func span args ++ (r.rewrite rest).1,(r.rewrite rest).2+1)
      | none =>
        (.ident name :: .punct '!' spacing :: (r.rewriteTree (.group delimiter span args)).1 ::
          (r.rewrite rest).1,(r.rewriteTree (.group delimiter span args)).2+(r.rewrite rest).2)
    | next =>
      (.ident name :: .punct '!' spacing :: (r.rewrite (next :: rest)).1,(r.rewrite (next :: rest)).2)
  | tt :: rest => ((r.rewriteTree tt).1 :: (r.rewrite rest).1,(r.rewriteTree tt).2+(r.rewrite rest).2)
termination_by structural ts => ts
end

/-- The output is the input with each registered call replaced, and the flag says whether there was
one. -/
def Correct (r : MacroReplacer Span) (ts : TokenStream Span) : Prop :=
  (r.replaceToken ts).1 = (r.rewrite ts).1 ∧ ((r.replaceToken ts).2 = true ↔ 0 < (r.rewrite ts).2)

lemma rewrite_bang (r : MacroReplacer Span) (spacing : Spacing) (rest : TokenStream Span) :
    r.rewrite (.punct '!' spacing :: rest) =
      (.punct '!' spacing :: (r.rewrite rest).1,(r.rewrite rest).2) := by
  simp [rewrite,rewriteTree]

lemma rewrite_no_call (r : MacroReplacer Span) (ts : TokenStream Span) :
    (r.rewrite ts).2 = 0 → (r.rewrite ts).1 = ts := by
  apply rewrite.induct r (fun tt => (r.rewriteTree tt).2 = 0 → (r.rewriteTree tt).1 = tt)
    (fun ts => (r.rewrite ts).2 = 0 → (r.rewrite ts).1 = ts)
  case case1 =>
    intro d span g ih h
    simpa [rewriteTree] using ih h
  case case2 =>
    intro tt _ _
    simp [rewriteTree]
  case case3 => simp [rewrite]
  case case4 =>
    intro name spacing rest d span args func hf ih h
    simp [rewrite,hf] at h
  case case5 =>
    intro name spacing rest d span args hf iht ih h
    simp only [rewrite,hf,Nat.add_eq_zero_iff] at h ⊢
    rw [iht h.1,ih h.2]
  case case6 =>
    intro name spacing rest next _ ih h
    simp only [rewrite] at h ⊢
    rw [ih h]
  case case7 =>
    intro tt rest _ iht ih h
    simp only [rewrite,Nat.add_eq_zero_iff] at h ⊢
    rw [iht h.1,ih h.2]

-- A call that begins behind a token is no part of that token, but for the arguments of a call that
-- begins with it.
lemma rewrite_calls_tail (r : MacroReplacer Span) (tt : TokenTree Span) (rest : TokenStream Span)
    (h : 0 < (r.rewrite rest).2) : 0 < (r.rewrite (tt :: rest)).2 := by
  rw [rewrite.eq_def r (tt :: rest)]
  split
  next heq => cases heq
  next name spacing next after heq =>
    cases heq
    rw [rewrite_bang] at h
    split
    next d span args =>
      split
      next => exact Nat.succ_pos _
      next => simpa [rewrite] using h
    next => exact h
  next heq =>
    cases heq
    exact Nat.add_pos_right _ h

/-- The flag is not set for a stream without a registered call. -/
theorem calls_of_replaced (r : MacroReplacer Span) (ts : TokenStream Span) :
    (r.replaceToken ts).2 = true → 0 < (r.rewrite ts).2 := by
  apply replaceToken.induct r (fun tt => (r.replaceTree tt).2 = true → 0 < (r.rewriteTree tt).2)
    (fun ts => (r.replaceToken ts).2 = true → 0 < (r.rewrite ts).2)
  case case1 =>
    intro d span g ih h
    exact ih h
  case case2 =>
    intro tt _ h
    simp [replaceTree] at h
  case case3 => simp [replaceToken]
  case case4 =>
    intro id spacing rest d span g func hf _ _
    rw [getFunc] at hf
    simp [rewrite,hf]
  case case5 =>
    intro id spacing rest d span g hf iht ih h
    rw [getFunc] at hf
    simp only [replaceToken,rewrite,getFunc,hf,Bool.or_eq_true] at h ⊢
    exact Nat.add_pos_iff_pos_or_pos.2 (h.imp iht ih)
  case case6 =>
    intro id spacing rest next hn ih h
    simp only [replaceToken,rewrite] at h ⊢
    exact rewrite_calls_tail r next rest (ih h)
  case case7 => simp [replaceToken]
  case case8 =>
    intro tt rest _ _ iht ih h
    simp only [replaceToken,rewrite,Bool.or_eq_true] at h ⊢
    exact Nat.add_pos_iff_pos_or_pos.2 (h.imp iht ih)

-- The arguments of a call under one of the names are not looked at: its function gets them as they are.
mutual
def TreeClear (names : Finset String) : TokenTree Span → Prop
  | .group _ _ g => Clear names g
  | _ => True

/-- A `!` after an identifier is followed by a group or ends its stream, and it is `Alone` unless it
belongs to a call under one of the names. -/
def Clear (names : Finset String) : List (TokenTree Span) → Prop
  | [] => True
  | .ident name :: .punct '!' spacing :: next :: rest =>
    match next with
    | .group delimiter span g =>
      if name ∈ names then Clear names rest
      else spacing = .alone ∧ TreeClear names (.group delimiter span g) ∧ Clear names rest
    | _ => False
  | [.ident _,.punct '!' spacing] => spacing = .alone
  | tt :: rest => TreeClear names tt ∧ Clear names rest
end

section Clear
variable {r : MacroReplacer Span} {names : Finset String}

lemma correct_of_clear (hr : ∀ name, name ∈ r.funcs ↔ name ∈ names) (ts : TokenStream Span) :
    Clear names ts → r.Correct ts := by
  apply replaceToken.induct r
    (fun tt => TreeClear names tt → (r.replaceTree tt).1 = (r.rewriteTree tt).1 ∧
      ((r.replaceTree tt).2 = true ↔ 0 < (r.rewriteTree tt).2))
    (fun ts => Clear names ts → r.Correct ts)
  case case1 =>
    intro _ _ g ih hc
    simpa [replaceTree,rewriteTree,Correct] using ih hc
  case case2 =>
    intro tt _ _
    simp [replaceTree,rewriteTree]
  case case3 => simp [Correct,replaceToken,rewrite]
  case case4 =>
    intro id spacing rest d span g func hf ih hc
    have hid : id ∈ names := (hr id).1 (AList.lookup_isSome.1 (Option.isSome_of_mem hf))
    rw [Clear,if_pos hid] at hc
    obtain ⟨ho,-⟩ := ih hc
    rw [getFunc] at hf
    simp [Correct,replaceToken,rewrite,getFunc,hf,ho]
  case case5 =>
    intro id spacing rest d span g hf iht ih hc
    have hid : id ∉ names := fun h => by
      rw [getFunc,AList.lookup_eq_none] at hf
      exact hf ((hr id).2 h)
    rw [Clear,if_neg hid] at hc
    obtain ⟨rfl,ht,hc⟩ := hc
    obtain ⟨ho,hflag⟩ := ih hc
    obtain ⟨hto,htflag⟩ := iht ht
    rw [getFunc] at hf
    simp only [Correct,replaceToken,rewrite,getFunc,hf,ho,hto,Bool.or_eq_true,htflag,hflag]
    exact ⟨trivial,Nat.add_pos_iff_pos_or_pos.symm⟩
  case case6 =>
    intro id spacing next rest hn _ hc
    simp [Clear] at hc
  case case7 =>
    intro id spacing hc
    obtain rfl : spacing = .alone := hc
    simp [Correct,replaceToken,rewrite,rewriteTree]
  case case8 =>
    intro tt rest h1 h2 iht ih hc
    simp only [Clear] at hc
    obtain ⟨ho,hflag⟩ := ih hc.2
    obtain ⟨hto,htflag⟩ := iht hc.1
    simp only [Correct,replaceToken,rewrite,ho,hto,Bool.or_eq_true,htflag,hflag]
    exact ⟨trivial,Nat.add_pos_iff_pos_or_pos.symm⟩

end Clear

/-! Whether a token is lost shows in the weight of the output. The functions are taken to put a call
back that weighs no less than the one they replace. -/

mutual
def treeWeight : TokenTree Span → ℕ
  | .group _ _ g => 1+weight g
  | .ident _ => 2
  | .punct _ .joint => 2
  | _ => 1

def weight : List (TokenTree Span) → ℕ
  | [] => 0
  | tt :: rest => treeWeight tt+weight rest
end

@[simp] lemma treeWeight_group (d : Delimiter) (span : Span) (g : TokenStream Span) :
    treeWeight (.group d span g) = 1+weight g := rfl

@[simp] lemma treeWeight_ident (name : String) : treeWeight (.ident name : TokenTree Span) = 2 := rfl

@[simp] lemma weight_cons (tt : TokenTree Span) (rest : TokenStream Span) :
    weight (tt :: rest) = treeWeight tt+weight rest := rfl

variable (Span) in
lemma treeWeight_bang_le (spacing : Spacing) :
    treeWeight (.punct '!' spacing : TokenTree Span) ≤ 2 := by
  cases spacing <;> simp [treeWeight]

variable (Span) in
lemma le_treeWeight_bang (spacing : Spacing) : treeWeight (.punct '!' .alone : TokenTree Span) ≤
    treeWeight (.punct '!' spacing : TokenTree Span) := by
  cases spacing <;> simp [treeWeight]

variable (Span) in
lemma lt_treeWeight_bang {spacing : Spacing} (h : spacing ≠ .alone) :
    treeWeight (.punct '!' .alone : TokenTree Span) <
      treeWeight (.punct '!' spacing : TokenTree Span) := by
  cases spacing with
  | alone => exact absurd rfl h
  | joint => simp [treeWeight]

lemma weight_append (ts us : TokenStream Span) : weight (ts ++ us) = weight ts+weight us := by
  induction ts with
  | nil => simp [weight]
  | cons tt ts ih => simp [weight,ih,Nat.add_assoc]

lemma treeWeight_pos (tt : TokenTree Span) : 0 < treeWeight tt := by
  unfold treeWeight
  split <;> omega

def echo (name : String) : ReplaceFn Span := fun span args =>
  [.ident name,.punct '!' .alone,.group .parenthesis span args]

lemma weight_echo (name : String) (span : Span) (args : TokenStream Span) :
    weight (echo name span args) = 4+weight args := by
  simp [echo,weight,treeWeight]
  omega

section Echo
variable {r : MacroReplacer Span} {names : Finset String}
  (hr : ∀ name, r.funcs.lookup name = if name ∈ names then some (echo name) else none)
include hr

lemma eq_echo {name : String} {func : ReplaceFn Span} (h : r.funcs.lookup name = some func) :
    name ∈ names ∧ func = echo name := by
  rw [hr] at h
  split at h
  next hn => exact ⟨hn,(Option.some.inj h).symm⟩
  next => cases h

lemma weight_rewrite_le (ts : TokenStream Span) : weight (r.rewrite ts).1 ≤ weight ts := by
  apply rewrite.induct r (fun tt => treeWeight (r.rewriteTree tt).1 ≤ treeWeight tt)
    (fun ts => weight (r.rewrite ts).1 ≤ weight ts)
  case case1 =>
    intro _ _ g ih
    simpa [rewriteTree,treeWeight] using ih
  case case2 =>
    intro tt _
    simp [rewriteTree]
  case case3 => simp [rewrite,weight]
  case case4 =>
    intro name spacing rest d span args func hf ih
    obtain ⟨-,rfl⟩ := eq_echo hr hf
    have hs := treeWeight_pos (.punct '!' spacing : TokenTree Span)
    simp only [rewrite,hf,weight_append,weight_echo,weight_cons,treeWeight_ident,treeWeight_group]
    omega
  case case5 =>
    intro name spacing rest d span args hf iht ih
    simp only [rewrite,hf,weight]
    omega
  case case6 =>
    intro name spacing next rest hn ih
    simp only [rewrite,weight] at ih ⊢
    omega
  case case7 =>
    intro tt rest h1 iht ih
    simp only [rewrite,weight]
    omega

lemma weight_rewrite_lt (tt : TokenTree Span) (rest : TokenStream Span) :
    weight (r.rewrite rest).1 < weight (r.rewrite (tt :: rest)).1 := by
  rw [rewrite.eq_def r (tt :: rest)]
  split
  next heq => cases heq
  next name spacing next after heq =>
    cases heq
    rw [rewrite_bang]
    split
    next d span args =>
      split
      next func hf =>
        have hargs := weight_rewrite_le hr args
        have hs := treeWeight_bang_le Span spacing
        obtain ⟨-,rfl⟩ := eq_echo hr hf
        simp only [rewrite,rewriteTree,weight_append,weight_echo,weight_cons,treeWeight_group]
        omega
      next => simp [rewrite]
    next => simp
  next heq =>
    cases heq
    simp [treeWeight_pos]

lemma weight_replaceToken (ts : TokenStream Span) :
    weight (r.replaceToken ts).1 ≤ weight (r.rewrite ts).1 ∧
      (¬ Clear names ts → weight (r.replaceToken ts).1 < weight (r.rewrite ts).1) := by
  apply replaceToken.induct r
    (fun tt => treeWeight (r.replaceTree tt).1 ≤ treeWeight (r.rewriteTree tt).1 ∧
      (¬ TreeClear names tt → treeWeight (r.replaceTree tt).1 < treeWeight (r.rewriteTree tt).1))
    (fun ts => weight (r.replaceToken ts).1 ≤ weight (r.rewrite ts).1 ∧
      (¬ Clear names ts → weight (r.replaceToken ts).1 < weight (r.rewrite ts).1))
  case case1 =>
    intro d span g ih
    simpa [replaceTree,rewriteTree,TreeClear] using ih
  case case2 =>
    intro tt htt
    have hc : TreeClear names tt := by simp [TreeClear]
    simp [replaceTree,rewriteTree,hc]
  case case3 => simp [replaceToken,rewrite,Clear]
  case case4 =>
    intro name spacing rest d span g func hf ih
    obtain ⟨hn,-⟩ := eq_echo hr hf
    rw [getFunc] at hf
    simp only [replaceToken,rewrite,getFunc,hf,weight_append,Clear,if_pos hn]
    exact ⟨Nat.add_le_add_left ih.1 _,fun hc => Nat.add_lt_add_left (ih.2 hc) _⟩
  case case5 =>
    intro name spacing rest d span g hf iht ih
    have hn : name ∉ names := fun hn => by simp [getFunc,hr,hn] at hf
    have hs := le_treeWeight_bang Span spacing
    rw [getFunc] at hf
    simp only [replaceToken,rewrite,getFunc,hf,weight_cons,Clear,if_neg hn]
    refine ⟨by omega,fun hc => ?_⟩
    by_cases hspacing : spacing = .alone
    · by_cases ht : TreeClear names (.group d span g)
      · have := ih.2 fun h => hc ⟨hspacing,ht,h⟩
        omega
      · have := iht.2 ht
        omega
    · have := lt_treeWeight_bang Span hspacing
      omega
  case case6 =>
    intro name spacing rest next hn ih
    have hl := weight_rewrite_lt hr next rest
    have hs := le_treeWeight_bang Span spacing
    simp [replaceToken,rewrite]
    omega
  case case7 =>
    intro name spacing
    cases spacing <;> simp [replaceToken,rewrite,rewriteTree,Clear,treeWeight,weight]
  case case8 =>
    intro tt rest h1 h2 iht ih
    simp only [replaceToken,rewrite,weight_cons,Clear]
    refine ⟨by omega,fun hc => ?_⟩
    by_cases ht : TreeClear names tt
    · have := ih.2 fun h => hc ⟨ht,h⟩
      omega
    · have := iht.2 ht
      omega

end Echo

lemma exists_echo (Span : Type) (names : Finset String) : ∃ r : MacroReplacer Span,
    ∀ name, r.funcs.lookup name = if name ∈ names then some (echo name) else none := by
  induction names using Finset.induction_on with
  | empty => exact ⟨⟨∅⟩,fun name => by simp⟩
  | insert a names ha ih =>
    obtain ⟨r,hr⟩ := ih
    refine ⟨r.add a (echo a),fun name => ?_⟩
    by_cases h : name = a
    · subst h
      simp [add,AList.lookup_insert]
    · simp [add,AList.lookup_insert_ne h,hr,h]

/-- Whatever the functions under the names are, exactly the registered calls are replaced and all
other tokens are kept: if and only if no other `!` after an identifier has a token of another kind
behind it or is joined to one. -/
theorem replaceToken_correct_iff (names : Finset String) (ts : TokenStream Span) :
    (∀ r : MacroReplacer Span, (∀ name, name ∈ r.funcs ↔ name ∈ names) → r.Correct ts) ↔
      Clear names ts := by
  constructor
  · intro h
    by_contra hc
    obtain ⟨r,hr⟩ := exists_echo Span names
    have hmem : ∀ name, name ∈ r.funcs ↔ name ∈ names := fun name => by
      rw [← AList.lookup_isSome,hr]
      split <;> simp_all
    have hlt := (weight_replaceToken hr ts).2 hc
    rw [(h r hmem).1] at hlt
    exact absurd hlt (Nat.lt_irrefl _)
  · intro hc r hr
    exact correct_of_clear hr ts hc

/-- `a != b, fmt_error!(e)` loses its `=`. -/
theorem replaceToken_not_correct :
    let r : MacroReplacer Unit := add ⟨∅⟩ "fmt_error" fun _ args => args
    let ts : TokenStream Unit :=
      [.ident "a",.punct '!' .joint,.punct '=' .alone,.ident "b",.punct ',' .alone,
        .ident "fmt_error",.punct '!' .alone,.group .parenthesis () [.ident "e"]]
    r.replaceToken ts = ([.ident "a",.punct '!' .alone,.ident "b",.punct ',' .alone,.ident "e"],true) ∧
      ¬ r.Correct ts := by
  refine ⟨rfl,fun h => ?_⟩
  have hlen := congrArg List.length h.1
  revert hlen
  decide

section TryReplace
variable {Expr Attribute : Type} (r : MacroReplacer Span) (parse2 : TokenStream Span → Option Expr)
  (mac : Macro Span) (attrs : List Attribute) (hmac : mac.path.bind r.getFunc = none)
include hmac

/-- A call of another macro is left alone where it holds no registered one, and rightly so; whatever
tokens were lost on the way. -/
theorem tryReplace_no_call (h : (r.rewrite mac.tokens).2 = 0) :
    r.tryReplace parse2 mac attrs = .ok none ∧ (r.rewrite mac.tokens).1 = mac.tokens := by
  have hflag : (r.replaceToken mac.tokens).2 = false := by
    by_contra hf
    have := r.calls_of_replaced mac.tokens (Bool.eq_true_of_not_eq_false hf)
    omega
  exact ⟨by simp [tryReplace,hmac,hflag],r.rewrite_no_call mac.tokens h⟩

/-- With nothing to lose, a call of another macro gets its tokens with the registered calls
replaced. -/
theorem tryReplace_clear {names : Finset String} (hr : ∀ name, name ∈ r.funcs ↔ name ∈ names)
    (hc : Clear names mac.tokens) : r.tryReplace parse2 mac attrs =
      if (r.rewrite mac.tokens).2 = 0 then .ok none
      else .ok (some (.mac attrs { mac with tokens := (r.rewrite mac.tokens).1 })) := by
  obtain ⟨ho,hflag⟩ := correct_of_clear hr mac.tokens hc
  by_cases h : (r.rewrite mac.tokens).2 = 0
  · rw [if_pos h]
    exact (tryReplace_no_call r parse2 mac attrs hmac h).1
  · have hf := hflag.2 (Nat.pos_of_ne_zero h)
    simp [tryReplace,hmac,h,hf,ho]

end TryReplace

end MacroReplacer
end VvClient.Trace
