import Vestibule.Proofs.QuietRemote

/-!
Searching a failure for its codes.

Unwrapping a failure gives the failures it wraps (`causes`), and the failures reachable from it
are those met by unwrapping again and again (`Reaches`). A search for a node of one type meets
them depth first: a failure, then each failure it wraps in turn with all that lies below it
(`visits`). `firstCoded` is the first coded node of that search, so the code clients see
(`outerCode`) and the test of the outer code (`isCode`) both read that node and no other.

`hasCode` is a loop over the same search: it finds the first coded node, compares its code, and
searches again from that node's own cause (`descent`). Each turn starts from a proper part of
the failure, so the loop ends, and it compares reachable codes in the order of the search, each
at most once. Every code it finds is carried by a reachable coded node. The converse fails where
a two-failure wrapper holds a coded node in its first failure: the loop goes down into that node
and never comes back to what follows it. The service's own two-failure wrappers put a
well-known kind first, and on failures built that way the loop finds every reachable code.
-/

namespace Vestibule.Fault

/-! ### Unwrapping and the order of the search -/

/-- The failures a failure wraps, in order: an empty credential wraps the invalid state, and a
remote status wraps the kind its status maps to. -/
def causes : Fault → List Fault
  | .kind k => if k = .emptyCredential then [.kind .invalidState] else []
  | .text _ => []
  | .wrap _ e => [e]
  | .wrapBoth _ a b => [a, b]
  | .coded _ _ cause => cause.toList
  | .status _ _ k => [.kind k]
  | .transport _ _ e => [e]

/-- `x` is `e`, or is met by unwrapping `e` again and again. -/
inductive Reaches : Fault → Fault → Prop
  | refl (e : Fault) : Reaches e e
  | cause {e x : Fault} (y : Fault) : y ∈ e.causes → Reaches y x → Reaches e x

/-- The failures reachable from a failure in the order a search for a node of one type meets
them: the failure, then each failure it wraps with all that lies below it. -/
def visits : Fault → List Fault
  | .kind k => .kind k :: (kind k).causes
  | .text m => [.text m]
  | .wrap c e => .wrap c e :: e.visits
  | .wrapBoth c a b => .wrapBoth c a b :: (a.visits ++ b.visits)
  | .coded d m none => [.coded d m none]
  | .coded d m (some e) => .coded d m (some e) :: e.visits
  | .status n m k => .status n m k :: .kind k :: (kind k).causes
  | .transport v a e => .transport v a e :: e.visits

theorem visits_eq_cons (e : Fault) : e.visits = e :: e.causes.flatMap visits := by
  cases e with
  | kind k => cases k <;> rfl
  | status n m k => cases k <;> rfl
  | coded d m cause => cases cause <;> simp [visits, causes]
  | _ => simp [visits, causes]

theorem mem_visits_of_reaches {e x : Fault} (h : e.Reaches x) : x ∈ e.visits := by
  induction h with
  | refl e => simp [visits_eq_cons e]
  | cause y hy _ ih =>
    rw [visits_eq_cons]
    exact List.mem_cons_of_mem _ (List.mem_flatMap.2 ⟨y, hy, ih⟩)

theorem reaches_of_mem_visits (e : Fault) {x : Fault} : x ∈ e.visits → e.Reaches x := by
  -- the failure itself is reached at once, the rest through the failure it wraps
  fun_induction visits e
  case case1 k =>
    intro h
    rcases List.mem_cons.1 h with rfl | hx
    · exact .refl _
    · exact .cause x hx (.refl x)
  case case2 | case5 =>
    intro h
    rw [List.mem_singleton.1 h]
    exact .refl _
  case case3 e ih | case6 e ih | case8 e ih =>
    intro h
    rcases List.mem_cons.1 h with rfl | hx
    · exact .refl _
    · exact .cause e (by simp [causes]) (ih hx)
  case case4 a b iha ihb =>
    intro h
    rcases List.mem_cons.1 h with rfl | hx
    · exact .refl _
    rcases List.mem_append.1 hx with hx | hx
    · exact .cause a (by simp [causes]) (iha hx)
    · exact .cause b (by simp [causes]) (ihb hx)
  case case7 n m k =>
    intro h
    have hk : (status n m k).causes = [kind k] := rfl
    rcases List.mem_cons.1 h with rfl | hx
    · exact .refl _
    rcases List.mem_cons.1 hx with rfl | hx
    · exact .cause _ (by simp [hk]) (.refl _)
    · exact .cause _ (by simp [hk]) (.cause x hx (.refl x))

theorem mem_visits_iff {e x : Fault} : x ∈ e.visits ↔ e.Reaches x :=
  ⟨reaches_of_mem_visits e, mem_visits_of_reaches⟩

/-! ### The first coded node -/

def asCoded : Fault → Option (String × String × Option Fault)
  | .coded c m cause => some (c, m, cause)
  | .kind _ | .text _ | .wrap _ _ | .wrapBoth _ _ _ | .status _ _ _ | .transport _ _ _ => none

@[simp] theorem asCoded_eq_some {x : Fault} {c m : String} {cause : Option Fault} :
    x.asCoded = some (c, m, cause) ↔ x = coded c m cause := by
  cases x <;> simp [asCoded]

/-- The codes of the coded nodes reachable from a failure, in the order of the search. -/
def codes : Fault → List String
  | .kind _ => []
  | .text _ => []
  | .wrap _ e => e.codes
  | .wrapBoth _ a b => a.codes ++ b.codes
  | .coded d _ none => [d]
  | .coded d _ (some e) => d :: e.codes
  | .status _ _ _ => []
  | .transport _ _ e => e.codes

theorem firstCoded_eq_findSome (e : Fault) : e.firstCoded = e.visits.findSome? asCoded := by
  fun_induction firstCoded e with
  | case1 k => cases k <;> rfl
  | case4 c a b iha ihb =>
    simp [visits, asCoded, List.findSome?_cons, List.findSome?_append, iha, ihb]
  | case5 d m cause => cases cause <;> rfl
  | case6 n m k => cases k <;> rfl
  | _ => simp_all [visits, asCoded, List.findSome?_cons]

theorem codes_eq_visits (e : Fault) : e.codes = (e.visits.filterMap asCoded).map (·.1) := by
  fun_induction codes e with
  | case1 k => cases k <;> rfl
  | case7 n m k => cases k <;> rfl
  | _ => simp_all [visits, asCoded, List.filterMap_cons]

theorem mem_codes_iff {e : Fault} {c : String} :
    c ∈ e.codes ↔ ∃ m cause, e.Reaches (coded c m cause) := by
  rw [codes_eq_visits]
  constructor
  · intro h
    obtain ⟨⟨c', m, cause⟩, hmem, rfl⟩ := List.mem_map.1 h
    obtain ⟨x, hx, hcoded⟩ := List.mem_filterMap.1 hmem
    rw [asCoded_eq_some] at hcoded
    subst hcoded
    exact ⟨m, cause, mem_visits_iff.1 hx⟩
  · rintro ⟨m, cause, h⟩
    exact List.mem_map.2 ⟨(c, m, cause), List.mem_filterMap.2 ⟨_, mem_visits_iff.2 h, rfl⟩, rfl⟩

theorem head?_codes (e : Fault) : e.codes.head? = e.firstCoded.map (·.1) := by
  rw [codes_eq_visits, List.head?_map, List.head?_filterMap, firstCoded_eq_findSome]

theorem codes_eq_nil_iff {e : Fault} : e.codes = [] ↔ e.Uncoded := by
  rw [← List.head?_eq_none_iff, head?_codes, Option.map_eq_none_iff]
  rfl

theorem isCode_outerCode_read_first (e : Fault) (c : String) :
    (e.isCode c = true ↔ e.codes.head? = some c) ∧
    e.outerCode = e.codes.head?.getD "internal_error" := by
  rw [head?_codes]
  unfold isCode outerCode
  constructor
  · cases e.firstCoded <;> simp
  · rfl

/-! ### The loop of `hasCode` -/

theorem sizeOf_cause_lt {e cause : Fault} {d m : String}
    (h : e.firstCoded = some (d, m, some cause)) : sizeOf cause < sizeOf e := by
  fun_induction firstCoded e
  case case1 | case2 | case6 => cases h
  case case3 e ih | case7 e ih =>
    have hlt := ih h
    simp
    omega
  case case4 a b iha ihb =>
    -- the first coded node lies in the first failure if it holds one, else in the second
    have hlt : sizeOf cause < sizeOf a ∨ sizeOf cause < sizeOf b := by
      cases ha : a.firstCoded with
      | none => exact .inr (ihb (by simpa [ha] using h))
      | some v => exact .inl (iha (by simpa [ha] using h))
    simp
    omega
  case case5 cause' =>
    simp only [Option.some.injEq, Prod.mk.injEq] at h
    obtain ⟨rfl, rfl, rfl⟩ := h
    simp
    omega

/-- The codes the loop of `hasCode` compares, one per turn: the code of the first coded node,
then, while that node has a cause, the codes the loop compares from the cause on. -/
def descent (e : Fault) : List String :=
  match _h : e.firstCoded with
  | none => []
  | some (d, _, none) => [d]
  | some (d, _, some cause) => d :: descent cause
termination_by sizeOf e
decreasing_by exact sizeOf_cause_lt _h

theorem descent_of_uncoded {e : Fault} (h : e.Uncoded) : e.descent = [] := by
  rw [descent]
  split <;> simp_all [Uncoded]

theorem descent_of_last {e : Fault} {d m : String} (h : e.firstCoded = some (d, m, none)) :
    e.descent = [d] := by
  rw [descent]
  split <;> simp_all

theorem descent_of_cause {e cause : Fault} {d m : String}
    (h : e.firstCoded = some (d, m, some cause)) : e.descent = d :: cause.descent := by
  rw [descent]
  split <;> simp_all

theorem descent_congr {e e' : Fault} (h : e.firstCoded = e'.firstCoded) :
    e.descent = e'.descent := by
  rcases hf : e'.firstCoded with _ | ⟨d, m, _ | cause⟩
  · rw [descent_of_uncoded (h.trans hf), descent_of_uncoded hf]
  · rw [descent_of_last (h.trans hf), descent_of_last hf]
  · rw [descent_of_cause (h.trans hf), descent_of_cause hf]

@[simp] theorem descent_wrap (c : String) (e : Fault) : (wrap c e).descent = e.descent :=
  descent_congr rfl

@[simp] theorem descent_transport (v a : String) (e : Fault) :
    (transport v a e).descent = e.descent :=
  descent_congr rfl

@[simp] theorem descent_coded_none (d m : String) : (coded d m none).descent = [d] :=
  descent_of_last rfl

@[simp] theorem descent_coded_some (d m : String) (e : Fault) :
    (coded d m (some e)).descent = d :: e.descent :=
  descent_of_cause rfl

theorem descent_wrapBoth_of_coded {a : Fault} (c : String) (b : Fault)
    {v : String × String × Option Fault} (h : a.firstCoded = some v) :
    (wrapBoth c a b).descent = a.descent :=
  descent_congr (by simp [firstCoded, h])

theorem descent_wrapBoth_of_uncoded {a : Fault} (c : String) (b : Fault) (h : a.Uncoded) :
    (wrapBoth c a b).descent = b.descent :=
  descent_congr (by simp [firstCoded, show a.firstCoded = none from h])

theorem hasCode_iff_mem_descent (c : String) (e : Fault) :
    e.hasCode c = true ↔ c ∈ e.descent := by
  fun_induction hasCode c e
  case case1 | case2 | case8 => simp [descent_of_uncoded]
  case case3 e ih | case9 e ih => simpa using ih
  case case4 a b _ ha ih =>
    rw [descent_wrapBoth_of_coded _ _ ha]
    exact ih
  case case5 a b ha ih =>
    rw [descent_wrapBoth_of_uncoded _ _ ha]
    exact ih
  case case6 d m =>
    simp only [beq_iff_eq, descent_coded_none, List.mem_singleton]
    exact eq_comm
  case case7 d m e ih =>
    simp only [Bool.or_eq_true, beq_iff_eq, descent_coded_some, List.mem_cons, ih, @eq_comm _ d c]

theorem descent_sublist_codes (e : Fault) : e.descent.Sublist e.codes := by
  -- by the cases of `hasCode`, which split a two-failure wrapper on whether its first failure
  -- holds a coded node: the loop goes into that failure only
  induction e using hasCode.induct
  case case1 | case2 | case8 => simp [descent_of_uncoded]
  case case3 e ih | case9 e ih => simpa [codes] using ih
  case case4 a b _ ha ih =>
    rw [descent_wrapBoth_of_coded _ _ ha, codes]
    exact ih.trans (List.sublist_append_left _ _)
  case case5 a b ha ih =>
    rw [descent_wrapBoth_of_uncoded _ _ ha, codes]
    exact ih.trans (List.sublist_append_right _ _)
  case case6 => simp [codes]
  case case7 d _ e ih => simpa [codes] using ih.cons_cons d

theorem reaches_of_hasCode {e : Fault} {c : String} (h : e.hasCode c = true) :
    ∃ m cause, e.Reaches (coded c m cause) :=
  mem_codes_iff.1 ((descent_sublist_codes e).subset ((hasCode_iff_mem_descent c e).1 h))

theorem hasCode_misses_later_sibling :
    (wrapBoth "refresh" (fresh "unavailable" "upstream down")
        (fresh "unauthorized" "refresh failed")).hasCode "unauthorized" = false ∧
    (wrapBoth "refresh" (fresh "unavailable" "upstream down")
        (fresh "unauthorized" "refresh failed")).Reaches (fresh "unauthorized" "refresh failed") :=
  ⟨by decide, .cause _ (by simp [causes]) (.refl _)⟩

/-! ### Failures whose codes lie in one line -/

/-- No two-failure wrapper in the failure holds a coded node in its first failure, so its coded
nodes lie one below the other. The service's own two-failure wrappers put a well-known kind
first. -/
def CodedInLine : Fault → Prop
  | .kind _ => True
  | .text _ => True
  | .wrap _ e => e.CodedInLine
  | .wrapBoth _ a b => a.Uncoded ∧ b.CodedInLine
  | .coded _ _ none => True
  | .coded _ _ (some e) => e.CodedInLine
  | .status _ _ _ => True
  | .transport _ _ e => e.CodedInLine

theorem descent_eq_codes {e : Fault} (h : e.CodedInLine) : e.descent = e.codes := by
  induction e using hasCode.induct
  case case1 | case2 | case8 => simp [descent_of_uncoded, codes]
  case case3 e ih | case9 e ih => simpa [codes] using ih h
  case case4 a b _ ha _ => exact absurd h.1 (by simp [Uncoded, ha])
  case case5 a b ha ih =>
    rw [descent_wrapBoth_of_uncoded _ _ ha, codes, codes_eq_nil_iff.2 ha, List.nil_append]
    exact ih h.2
  case case6 => simp [codes]
  case case7 e ih => simpa [codes] using ih h

theorem hasCode_iff_reaches_of_inLine {e : Fault} (h : e.CodedInLine) (c : String) :
    e.hasCode c = true ↔ ∃ m cause, e.Reaches (coded c m cause) := by
  rw [hasCode_iff_mem_descent, descent_eq_codes h, mem_codes_iff]

theorem hasCode_finds_code_after_kind :
    (wrapBoth "GET" (kind .unavailable) (fresh "timeout" "slow")).CodedInLine ∧
    ((wrapBoth "GET" (kind .unavailable) (fresh "timeout" "slow")).hasCode "timeout" = true ↔
      ∃ m cause, (wrapBoth "GET" (kind .unavailable) (fresh "timeout" "slow")).Reaches
        (coded "timeout" m cause)) :=
  have hline : (wrapBoth "GET" (kind .unavailable) (fresh "timeout" "slow")).CodedInLine :=
    by simp [CodedInLine, fresh]
  ⟨hline, hasCode_iff_reaches_of_inLine hline "timeout"⟩

end Vestibule.Fault
