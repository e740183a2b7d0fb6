import RaceLink.Gateways.Wiring

/-! Who listens in the end, whatever the threads do. -/
namespace RaceLink.Gateways.Wiring
open Python Library

variable {made : Nat → Made} {s : Hub} {c : Call} {others P : Multiset Call} {n m : Nat} {l : Listener}

/-! ### What is held is there -/

/-- Transports that are attached, held or walked over are there, and no two that are there lie at one address. -/
structure Lives (made : Nat → Made) (P : Multiset Call) (s : Hub) : Prop where
  attached : ∀ n ∈ s.attached, n ∈ s.born ∧ n ∉ s.gone
  held : ∀ c ∈ P, ∀ n, c.holds = some n → n ∈ s.born ∧ n ∉ s.gone
  walked : ∀ c ∈ P, ∀ n ∈ c.over s, n ∈ s.born ∧ n ∉ s.gone
  apart : ∀ n ∈ s.born, ∀ m ∈ s.born, (made n).address = (made m).address → n ∉ s.gone → m ∉ s.gone → n = m
  born : ∀ n ∈ s.gone, n ∈ s.born

@[simp, grind =] theorem holds_afterwards : (afterwards n l).holds = some n := by cases l <;> rfl

@[simp, grind =] theorem over_afterwards : (afterwards n l).over s = [] := by cases l <;> rfl

/-- The calls that a call makes in turn hold what it holds or walks over, or what is attached, or what it has
made. -/
theorem holds_call {c' : Call} (hc : c' ∈ (call made others c s).1) (hn : c'.holds = some n) :
    c.holds = some n ∨ (n ∈ s.attached ∨ n ∈ c.over s) ∨ n ∈ (call made others c s).2.born ∧ n ∉ s.born := by
  cases c <;> simp only [call] at hc ⊢ <;>
    grind [Call.holds, Call.over, List.mem_of_head?, List.mem_of_getElem?]

/-- They walk over what it walks over, or what is attached. -/
theorem over_call {c' : Call} (hc : c' ∈ (call made others c s).1) (hn : n ∈ c'.over (call made others c s).2) :
    n ∈ s.attached ∨ n ∈ c.over s := by
  cases c <;> simp only [call] at hc hn <;> grind [Call.over, Hub.list]

theorem attached_call (hn : n ∈ (call made others c s).2.attached) : c = .append n ∨ n ∈ s.attached := by
  cases c <;> simp only [call] at hn <;> grind

theorem lists_call (made : Nat → Made) (others : Multiset Call) (s : Hub) (hc : c ≠ .closeAllTransports) :
    (call made others c s).2.lists = s.lists ∧ (call made others c s).2.former = s.former := by
  cases c <;> simp only [call] <;> grind

/-- A list only gets what is appended. -/
theorem list_call {k : Nat} (hn : n ∈ (call made others c s).2.list k) : n ∈ s.list k ∨ c = .append n := by
  by_cases hc : c = .closeAllTransports
  · subst hc
    simp only [call, Hub.list] at hn ⊢
    grind [Function.update]
  · obtain ⟨hlists, hformer⟩ := lists_call made others s hc
    simp only [Hub.list, hlists, hformer] at hn ⊢
    by_cases hk : k = s.lists
    · rw [if_pos hk] at hn ⊢
      exact (attached_call hn).symm
    · rw [if_neg hk] at hn ⊢
      exact .inl hn

theorem over_of_call {c' : Call} (hn : n ∈ c'.over (call made others c s).2) : n ∈ c'.over s ∨ c = .append n := by
  cases c' with
  | walk k i => exact list_call hn
  | _ => cases hn

theorem gone_call : (call made others c s).2.gone = s.gone := by
  cases c <;> simp only [call] <;> grind

theorem gone_of_gone (hn : n ∈ s.gone) : n ∈ (call made others c s).2.gone := by
  rw [gone_call]
  exact hn

theorem born_of_born (hn : n ∈ s.born) : n ∈ (call made others c s).2.born := by
  cases c <;> simp only [call] <;> grind

theorem Lives.call (h : Lives made (c ::ₘ others) s) :
    Lives made ((call made others c s).1 + others) (call made others c s).2 := by
  have hself : c ∈ c ::ₘ others := Multiset.mem_cons_self ..
  have hthere : ∀ k, c.holds = some k ∨ k ∈ s.attached ∨ k ∈ c.over s → k ∈ s.born ∧ k ∉ s.gone := by
    intro k hk
    rcases hk with hk | hk | hk
    · exact h.held c hself k hk
    · exact h.attached k hk
    · exact h.walked c hself k hk
  refine ⟨fun k hk => ?_, fun c' hc' k hk => ?_, fun c' hc' k hk => ?_, ?_, fun k hk => ?_⟩
  · have hheld : c.holds = some k ∨ k ∈ s.attached ∨ k ∈ c.over s :=
      (attached_call hk).imp (fun hc => by rw [hc, Call.holds]) .inl
    rw [gone_call]
    exact ⟨born_of_born (hthere k hheld).1, (hthere k hheld).2⟩
  · rw [gone_call]
    rcases Multiset.mem_add.mp hc' with hc' | hc'
    · rcases holds_call (Multiset.mem_coe.mp hc') hk with hk | hk | ⟨hborn, hnew⟩
      · exact ⟨born_of_born (hthere k (.inl hk)).1, (hthere k (.inl hk)).2⟩
      · exact ⟨born_of_born (hthere k (.inr hk)).1, (hthere k (.inr hk)).2⟩
      · exact ⟨hborn, fun hgone => hnew (h.born k hgone)⟩
    · obtain ⟨hborn, hgone⟩ := h.held c' (Multiset.mem_cons_of_mem hc') k hk
      exact ⟨born_of_born hborn, hgone⟩
  · rw [gone_call]
    rcases Multiset.mem_add.mp hc' with hc' | hc'
    · obtain ⟨hborn, hgone⟩ := hthere k (.inr (over_call (Multiset.mem_coe.mp hc') hk))
      exact ⟨born_of_born hborn, hgone⟩
    · rcases over_of_call hk with hk | rfl
      · obtain ⟨hborn, hgone⟩ := h.walked c' (Multiset.mem_cons_of_mem hc') k hk
        exact ⟨born_of_born hborn, hgone⟩
      · exact ⟨born_of_born (hthere k (.inl rfl)).1, (hthere k (.inl rfl)).2⟩
  · rw [gone_call]
    have hapart := h.apart
    cases c <;> simp only [Wiring.call] <;> grind
  · rw [gone_call] at hk
    exact born_of_born (h.born k hk)

/-! ### The service -/

/-- The service listens to a transport. -/
def Wired (s : Hub) (n : Nat) : Prop := .onTransportEvent ∈ s.listeners n ∧ .onTransportTx ∈ s.listeners n

/-- A call by which the service comes to listen to a transport. -/
def Installs (n : Nat) (c : Call) : Prop :=
  c = .installTransportHooks n ∨ ∃ l, l ≠ .bridge ∧ (c = .addListener n l ∨ c = .appendListener n l)

/-! ### What a call leads to -/

/-- Listeners stay. -/
theorem listeners_call (hl : l ∈ s.listeners n) : l ∈ (call made others c s).2.listeners n := by
  cases c <;> simp only [call] <;> grind [Function.update]

theorem Wired.call (h : Wired s n) : Wired (call made others c s).2 n := ⟨listeners_call h.1, listeners_call h.2⟩

theorem listeners_append : l ∈ (call made others (.appendListener n l) s).2.listeners n := by simp [call]

theorem addListener_from (h : .addListener n l ∈ (call made others c s).1) :
    c = .installTransportHooks n ∧ l = .onTransportEvent ∧ (made n).address ∉ s.installed ∨
      c = .hookSingleTransport n ∧ l = .bridge ∧ (made n).address ∉ s.hooked ∨
      l = .onTransportTx ∧ (c = .addListener n .onTransportEvent ∧ .onTransportEvent ∈ s.listeners n ∨
        c = .appendListener n .onTransportEvent) := by
  cases c <;> simp only [call] at h <;> grind [afterwards.eq_def]

theorem appendListener_from (h : .appendListener n l ∈ (call made others c s).1) :
    c = .addListener n l ∧ l ∉ s.listeners n := by
  cases c <;> simp only [call] at h <;> grind [afterwards.eq_def]

theorem markInstalled_from (h : .markInstalled n ∈ (call made others c s).1) :
    c = .addListener n .onTransportTx ∧ .onTransportTx ∈ s.listeners n ∨ c = .appendListener n .onTransportTx := by
  cases c <;> simp only [call] at h <;> grind [afterwards.eq_def]

theorem markHooked_from (h : .markHooked n ∈ (call made others c s).1) :
    c = .addListener n .bridge ∧ .bridge ∈ s.listeners n ∨ c = .appendListener n .bridge := by
  cases c <;> simp only [call] at h <;> grind [afterwards.eq_def]

theorem late_call (h : n ∈ (call made others c s).2.late) : n ∈ s.late ∨ c = .markInstalled n ∧ n ∉ s.attached ∨
    c = .closeAllTransports ∧ n ∈ s.attached ∧ Wired s n := by
  cases c <;> simp only [call] at h <;> grind [Hub.Marked, Wired]

theorem late_of_late (h : n ∈ s.late) : n ∈ (call made others c s).2.late := by
  cases c <;> simp only [call] <;> grind

theorem installed_call {a : Nat} (h : a ∈ (call made others c s).2.installed) : c ≠ .clearHooks ∧
    (a ∈ s.installed ∧ (∀ m, c = .discardHooks m → a ≠ (made m).address) ∨
      ∃ m, c = .markInstalled m ∧ a = (made m).address) := by
  cases c <;> simp only [call] at h <;> grind

theorem attached_call_of_mem (made : Nat → Made) (others : Multiset Call) (c : Call) (h : n ∈ s.attached) :
    n ∈ (call made others c s).2.attached ∨
    c = .remove n ∧ .discardHooks n ∈ (call made others c s).1 ∨ c = .closeAllTransports := by
  cases c <;> simp only [call] <;> grind

/-- When all are closed, marks are left behind unless they are to be cleared. -/
theorem late_of_close (h : n ∈ s.attached) (hwired : Wired s n) (hmark : (made n).address ∈ s.installed)
    (hclear : .clearHooks ∉ others) : n ∈ (call made others .closeAllTransports s).2.late := by
  simp only [call, if_neg hclear, List.mem_append, List.mem_filter, decide_eq_true_eq]
  exact .inl ⟨h, hmark, hwired⟩

theorem hasty_of_hasty (h : n ∈ s.hasty) : n ∈ (call made others c s).2.hasty := by
  cases c <;> simp only [call] <;> grind

theorem installs_append : .installTransportHooks n ∈ (call made others (.append n) s).1 := by simp [call]

theorem append_of_add (hl : l ∉ s.listeners n) :
    .appendListener n l ∈ (call made others (.addListener n l) s).1 := by simp [call, hl]

theorem add_of_install (h : (made n).address ∉ s.installed) :
    .addListener n .onTransportEvent ∈ (call made others (.installTransportHooks n) s).1 := by simp [call, h]

theorem add_of_event (hl : .onTransportEvent ∈ s.listeners n) :
    .addListener n .onTransportTx ∈ (call made others (.addListener n .onTransportEvent) s).1 := by
  simp [call, hl, afterwards]

theorem hasty_of_reset (h : .clearHooks ∈ others) :
    n ∈ (call made others (.installTransportHooks n) s).2.hasty := by simp [call, h]

/-! ### The service listens -/

/-- Marks are put where the service listens. A mark is of a transport that is attached or whose mark is to be taken
out, or it came late or was left behind, or all marks are to be cleared. An attached transport has the service for a
listener or is to get it, unless it was looked at in haste or lies where a late mark is of a transport that is gone. -/
structure Service (made : Nat → Made) (P : Multiset Call) (s : Hub) : Prop where
  adding : ∀ n, .addListener n .onTransportTx ∈ P ∨ .appendListener n .onTransportTx ∈ P →
    .onTransportEvent ∈ s.listeners n
  marking : ∀ n, .markInstalled n ∈ P → Wired s n
  late : ∀ n ∈ s.late, n ∈ s.born ∧ Wired s n
  installed : ∀ a ∈ s.installed, .clearHooks ∈ P ∨ (∃ m ∈ s.late, (made m).address = a) ∨
    ∃ m, (made m).address = a ∧ Wired s m ∧ (m ∈ s.attached ∨ .discardHooks m ∈ P)
  wired : ∀ n ∈ s.attached, Wired s n ∨ (∃ c ∈ P, Installs n c) ∨ n ∈ s.hasty ∨
    ∃ m ∈ s.late, m ∈ s.gone ∧ (made m).address = (made n).address

/-- A transport whose address is marked is listened to, or was looked at in haste, or lies where a late mark is. -/
theorem Service.marked (h : Service made P s) (hlives : Lives made P s) (hborn : n ∈ s.born) (hgone : n ∉ s.gone)
    (hmark : (made n).address ∈ s.installed) : Wired s n ∨ .clearHooks ∈ P ∨
      ∃ m ∈ s.late, m ∈ s.gone ∧ (made m).address = (made n).address := by
  rcases h.installed _ hmark with hclear | ⟨m, hm, haddress⟩ | ⟨m, haddress, hwired, hm⟩
  · exact .inr (.inl hclear)
  · by_cases hgonem : m ∈ s.gone
    · exact .inr (.inr ⟨m, hm, hgonem, haddress⟩)
    · rw [hlives.apart n hborn m (h.late m hm).1 haddress.symm hgone hgonem]
      exact .inl (h.late m hm).2
  · have hthere : m ∈ s.born ∧ m ∉ s.gone := by
      rcases hm with hm | hm
      · exact hlives.attached m hm
      · exact hlives.held _ hm m rfl
    rw [hlives.apart n hborn m hthere.1 haddress.symm hgone hthere.2]
    exact .inl hwired

/-- The call that was to make the service listen has gone on. -/
theorem Service.install (h : Service made (c ::ₘ others) s) (hlives : Lives made (c ::ₘ others) s)
    (hinstalls : Installs n c) : Wired (call made others c s).2 n ∨
      (∃ c' ∈ (call made others c s).1 + others, Installs n c') ∨ n ∈ (call made others c s).2.hasty ∨
        ∃ m ∈ (call made others c s).2.late, m ∈ (call made others c s).2.gone ∧
          (made m).address = (made n).address := by
  have hnext : ∀ {c'}, c' ∈ (call made others c s).1 → Installs n c' →
      ∃ c' ∈ (call made others c s).1 + others, Installs n c' :=
    fun hc' hinstalls => ⟨_, Multiset.mem_add.mpr (.inl (Multiset.mem_coe.mpr hc')), hinstalls⟩
  rcases hinstalls with rfl | ⟨l, hl, rfl | rfl⟩
  · by_cases hmark : (made n).address ∈ s.installed
    · obtain ⟨hborn, hgone⟩ := hlives.held _ (Multiset.mem_cons_self ..) n rfl
      rcases h.marked hlives hborn hgone hmark with hwired | hclear | ⟨m, hm, hgonem, haddress⟩
      · exact .inl hwired.call
      · have hothers : .clearHooks ∈ others := (Multiset.mem_cons.mp hclear).resolve_left (by simp)
        exact .inr (.inr (.inl (hasty_of_reset hothers)))
      · exact .inr (.inr (.inr ⟨m, late_of_late hm, gone_of_gone hgonem, haddress⟩))
    · exact .inr (.inl (hnext (add_of_install hmark) (.inr ⟨_, by decide, .inl rfl⟩)))
  · by_cases hmem : l ∈ s.listeners n
    · cases l with
      | onTransportEvent => exact .inr (.inl (hnext (add_of_event hmem) (.inr ⟨_, by decide, .inl rfl⟩)))
      | onTransportTx =>
        have hevent := h.adding n (.inl (Multiset.mem_cons_self ..))
        exact .inl (Wired.call ⟨hevent, hmem⟩)
      | bridge => exact absurd rfl hl
    · exact .inr (.inl (hnext (append_of_add hmem) (.inr ⟨l, hl, .inr rfl⟩)))
  · cases l with
    | onTransportEvent =>
      have hadd : .addListener n .onTransportTx ∈
          (call made others (.appendListener n .onTransportEvent) s).1 := by simp [call, afterwards]
      exact .inr (.inl (hnext hadd (.inr ⟨_, by decide, .inl rfl⟩)))
    | onTransportTx =>
      have hevent := h.adding n (.inr (Multiset.mem_cons_self ..))
      exact .inl ⟨listeners_call hevent, listeners_append⟩
    | bridge => exact absurd rfl hl

theorem Service.call (h : Service made (c ::ₘ others) s) (hlives : Lives made (c ::ₘ others) s) :
    Service made ((call made others c s).1 + others) (call made others c s).2 := by
  have hbefore : ∀ {c'}, c' ∈ others → c' ∈ c ::ₘ others := Multiset.mem_cons_of_mem
  have hself : c ∈ c ::ₘ others := Multiset.mem_cons_self ..
  constructor
  · intro n hn
    simp only [Multiset.mem_add, Multiset.mem_coe] at hn
    rcases hn with (hn | hn) | (hn | hn)
    · rcases addListener_from hn with ⟨-, hl, -⟩ | ⟨-, hl, -⟩ | ⟨-, ⟨-, hevent⟩ | rfl⟩
      · cases hl
      · cases hl
      · exact listeners_call hevent
      · exact listeners_append
    · exact listeners_call (h.adding n (.inl (hbefore hn)))
    · obtain ⟨rfl, -⟩ := appendListener_from hn
      exact listeners_call (h.adding n (.inl hself))
    · exact listeners_call (h.adding n (.inr (hbefore hn)))
  · intro n hn
    rcases Multiset.mem_add.mp hn with hn | hn
    · rcases markInstalled_from (Multiset.mem_coe.mp hn) with ⟨rfl, htx⟩ | rfl
      · exact Wired.call ⟨h.adding n (.inl hself), htx⟩
      · exact ⟨listeners_call (h.adding n (.inr hself)), listeners_append⟩
    · exact (h.marking n (hbefore hn)).call
  · intro n hn
    rcases late_call hn with hn | ⟨rfl, -⟩ | ⟨rfl, hattached, hwired⟩
    · exact ⟨born_of_born (h.late n hn).1, (h.late n hn).2.call⟩
    · exact ⟨born_of_born (hlives.held _ hself n rfl).1, (h.marking n hself).call⟩
    · exact ⟨born_of_born (hlives.attached n hattached).1, hwired.call⟩
  · intro a ha
    obtain ⟨hnot, ⟨ha, hdiscards⟩ | ⟨m, rfl, rfl⟩⟩ := installed_call ha
    · rcases h.installed a ha with hclear | ⟨m, hm, haddress⟩ | ⟨m, haddress, hwired, hm⟩
      · have hothers : .clearHooks ∈ others := (Multiset.mem_cons.mp hclear).resolve_left (Ne.symm hnot)
        exact .inl (Multiset.mem_add.mpr (.inr hothers))
      · exact .inr (.inl ⟨m, late_of_late hm, haddress⟩)
      · rcases hm with hattached | hm
        · rcases attached_call_of_mem made others c hattached with hm | ⟨-, hm⟩ | hm
          · exact .inr (.inr ⟨m, haddress, hwired.call, .inl hm⟩)
          · exact .inr (.inr ⟨m, haddress, hwired.call, .inr (Multiset.mem_add.mpr (.inl (Multiset.mem_coe.mpr hm)))⟩)
          · subst hm
            by_cases hclear : .clearHooks ∈ others
            · exact .inl (Multiset.mem_add.mpr (.inr hclear))
            · exact .inr (.inl ⟨m, late_of_close hattached hwired (haddress ▸ ha) hclear, haddress⟩)
        · have hne : c ≠ .discardHooks m := fun hc => hdiscards m hc haddress.symm
          have hothers : .discardHooks m ∈ others := (Multiset.mem_cons.mp hm).resolve_left (Ne.symm hne)
          exact .inr (.inr ⟨m, haddress, hwired.call, .inr (Multiset.mem_add.mpr (.inr hothers))⟩)
    · have hwired := h.marking m hself
      by_cases hm : m ∈ s.attached
      · exact .inr (.inr ⟨m, rfl, hwired.call, .inl (by simpa [Wiring.call] using hm)⟩)
      · exact .inr (.inl ⟨m, by simp [Wiring.call, hm], rfl⟩)
  · intro n hn
    rcases attached_call hn with rfl | hn
    · exact .inr (.inl ⟨_, Multiset.mem_add.mpr (.inl (Multiset.mem_coe.mpr installs_append)), .inl rfl⟩)
    · rcases h.wired n hn with hwired | ⟨c', hc', hinstalls⟩ | hhasty | ⟨m, hm, hgone, haddress⟩
      · exact .inl hwired.call
      · rcases Multiset.mem_cons.mp hc' with rfl | hc'
        · exact h.install hlives hinstalls
        · exact .inr (.inl ⟨c', Multiset.mem_add.mpr (.inr hc'), hinstalls⟩)
      · exact .inr (.inr (.inl (hasty_of_hasty hhasty)))
      · exact .inr (.inr (.inr ⟨m, late_of_late hm, gone_of_gone hgone, haddress⟩))

/-! ### The bridge listens -/

/-- A call by which the bridge comes to listen to a transport. -/
def Hooks (n : Nat) (c : Call) : Prop :=
  c = .hookSingleTransport n ∨ c = .addListener n .bridge ∨ c = .appendListener n .bridge

theorem passed_call (h : m ∈ (call made others c s).2.passed) :
    c ≠ .rebindTransport ∧ (m ∈ s.passed ∨ c = .markHooked m) := by
  cases c <;> simp only [call] at h <;> grind

theorem passed_of_passed (h : m ∈ s.passed) (hc : c ≠ .rebindTransport) : m ∈ (call made others c s).2.passed := by
  cases c <;> simp only [call] <;> grind

theorem hooked_call {a : Nat} (h : a ∈ (call made others c s).2.hooked) : c ≠ .rebindTransport ∧
    (a ∈ s.hooked ∨ ∃ m, c = .markHooked m ∧ a = (made m).address ∧ m ∈ (call made others c s).2.passed) := by
  cases c <;> simp only [call] at h ⊢ <;> grind

theorem rebound_call (h : n ∈ (call made others c s).2.rebound) :
    c = .rebindTransport ∧ n ∈ s.attached ∨ c ≠ .rebindTransport ∧ c ≠ .append n ∧ n ∈ s.rebound := by
  cases c <;> simp only [call] at h <;> grind

theorem seen_call (h : n ∈ (call made others c s).2.seen) :
    c ≠ .rebindTransport ∧ (n ∈ s.seen ∨ c = .hookSingleTransport n) := by
  cases c <;> simp only [call] at h <;> grind

/-- The bridge marks where it listens. No transport that was attached at its last rebind lies where another one was
marked since, and each of them has it for a listener or is to get it, unless it was moved behind a walk. So it is with
one that the bridge has looked at, unless that lies where one was marked that is gone. -/
structure Bridged (made : Nat → Made) (P : Multiset Call) (s : Hub) : Prop where
  hooking : ∀ n, .markHooked n ∈ P → .bridge ∈ s.listeners n
  passed : ∀ m ∈ s.passed, m ∈ s.born ∧ .bridge ∈ s.listeners m
  hooked : ∀ a ∈ s.hooked, ∃ m ∈ s.passed, (made m).address = a
  rebound : ∀ n ∈ s.rebound, n ∈ s.born
  since : ∀ n ∈ s.rebound, n ∉ s.gone → ∀ m ∈ s.passed, (made m).address = (made n).address → m = n
  sought : ∀ n ∈ s.rebound, n ∈ s.attached → .bridge ∈ s.listeners n ∨
    (.ensureTransportHooked ∈ P ∨ ∃ c ∈ P, n ∈ c.ahead s) ∨ (∃ c ∈ P, Hooks n c) ∨ n ∈ s.skipped
  seen : ∀ n ∈ s.seen, .bridge ∈ s.listeners n ∨ (∃ c ∈ P, Hooks n c) ∨
    ∃ m ∈ s.passed, m ∈ s.gone ∧ (made m).address = (made n).address

/-- What a walk has still to come to is still before it, or was moved behind it. -/
theorem ahead_call {c' : Call} (hc' : c' ∈ others) (hn : n ∈ c'.ahead s)
    (hattached : n ∈ (call made others c s).2.attached) :
    n ∈ c'.ahead (call made others c s).2 ∨ n ∈ (call made others c s).2.skipped := by
  cases c' with
  | walk k i =>
    by_cases hremove : ∃ m, c = .remove m
    · obtain ⟨m, rfl⟩ := hremove
      by_cases hahead : n ∈ (Call.walk k i).ahead (call made others (.remove m) s).2
      · exact .inl hahead
      · refine .inr (List.mem_append_left _ (List.mem_filter.mpr ⟨hattached, decide_eq_true ?_⟩))
        exact fun hall => hahead (hall _ hc' hn)
    · refine .inl ?_
      cases c <;> simp only [call, Call.ahead, Hub.list] at hn hattached ⊢ <;> grind [List.drop_append]
  | _ => cases hn

theorem skipped_of_skipped (h : n ∈ s.skipped) (hc : c ≠ .rebindTransport) :
    n ∈ (call made others c s).2.skipped := by
  cases c <;> simp only [call] <;> grind

/-- A walk goes on to the next transport. -/
theorem walk_call (made : Nat → Made) (others : Multiset Call) {k i : Nat} (hn : n ∈ (Call.walk k i).ahead s) :
    .hookSingleTransport n ∈ (call made others (.walk k i) s).1 ∨
      .walk k (i + 1) ∈ (call made others (.walk k i) s).1 ∧
        n ∈ (Call.walk k (i + 1)).ahead (call made others (.walk k i) s).2 := by
  simp only [call]
  cases hi : (s.list k)[i]? with
  | none =>
    rw [Call.ahead, List.drop_eq_nil_of_le (List.getElem?_eq_none_iff.mp hi)] at hn
    cases hn
  | some m =>
    obtain ⟨hlt, hget⟩ := List.getElem?_eq_some_iff.mp hi
    rw [Call.ahead, List.drop_eq_getElem_cons hlt, hget] at hn
    rcases List.mem_cons.mp hn with rfl | hn
    · exact .inl (List.mem_cons_self ..)
    · exact .inr ⟨List.mem_cons_of_mem _ (List.mem_singleton_self _), hn⟩

theorem walk_of_ensure (made : Nat → Made) (others : Multiset Call) (hn : n ∈ s.attached) :
    .walk s.lists 0 ∈ (call made others .ensureTransportHooked s).1 ∧ n ∈ (Call.walk s.lists 0).ahead s := by
  simp [call, List.ne_nil_of_mem hn, Call.ahead, Hub.list, hn]

/-- The call that was to make the bridge listen has gone on. -/
theorem hooks_call (made : Nat → Made) (others : Multiset Call) (s : Hub) (hhooks : Hooks n c) :
    .bridge ∈ (call made others c s).2.listeners n ∨ (∃ c' ∈ (call made others c s).1 + others, Hooks n c') ∨
      c = .hookSingleTransport n ∧ (made n).address ∈ s.hooked := by
  have hnext : ∀ {c'}, c' ∈ (call made others c s).1 → Hooks n c' →
      ∃ c' ∈ (call made others c s).1 + others, Hooks n c' :=
    fun hc' hhooks => ⟨_, Multiset.mem_add.mpr (.inl (Multiset.mem_coe.mpr hc')), hhooks⟩
  rcases hhooks with rfl | rfl | rfl
  · by_cases hmark : (made n).address ∈ s.hooked
    · exact .inr (.inr ⟨rfl, hmark⟩)
    · have hadd : .addListener n .bridge ∈ (call made others (.hookSingleTransport n) s).1 := by simp [call, hmark]
      exact .inr (.inl (hnext hadd (.inr (.inl rfl))))
  · by_cases hmem : .bridge ∈ s.listeners n
    · exact .inl (listeners_call hmem)
    · exact .inr (.inl (hnext (append_of_add hmem) (.inr (.inr rfl))))
  · exact .inl listeners_append

theorem Bridged.call (h : Bridged made (c ::ₘ others) s) (hlives : Lives made (c ::ₘ others) s) :
    Bridged made ((call made others c s).1 + others) (call made others c s).2 := by
  have hbefore : ∀ {c'}, c' ∈ others → c' ∈ c ::ₘ others := Multiset.mem_cons_of_mem
  have hself : c ∈ c ::ₘ others := Multiset.mem_cons_self ..
  have hafter : ∀ {c'}, c' ∈ (Wiring.call made others c s).1 → c' ∈ (Wiring.call made others c s).1 + others :=
    fun hc' => Multiset.mem_add.mpr (.inl (Multiset.mem_coe.mpr hc'))
  constructor
  · intro n hn
    rcases Multiset.mem_add.mp hn with hn | hn
    · rcases markHooked_from (Multiset.mem_coe.mp hn) with ⟨rfl, hmem⟩ | rfl
      · exact listeners_call hmem
      · exact listeners_append
    · exact listeners_call (h.hooking n (hbefore hn))
  · intro m hm
    obtain ⟨-, hm | rfl⟩ := passed_call hm
    · exact ⟨born_of_born (h.passed m hm).1, listeners_call (h.passed m hm).2⟩
    · exact ⟨born_of_born (hlives.held _ hself m rfl).1, listeners_call (h.hooking m hself)⟩
  · intro a ha
    obtain ⟨hne, ha | ⟨m, -, haddress, hm⟩⟩ := hooked_call ha
    · obtain ⟨m, hm, haddress⟩ := h.hooked a ha
      exact ⟨m, passed_of_passed hm hne, haddress⟩
    · exact ⟨m, hm, haddress.symm⟩
  · intro n hn
    rcases rebound_call hn with ⟨-, hn⟩ | ⟨-, -, hn⟩
    · exact born_of_born (hlives.attached n hn).1
    · exact born_of_born (h.rebound n hn)
  · intro n hn hgone m hm haddress
    rw [gone_call] at hgone
    obtain ⟨hne, hm⟩ := passed_call hm
    obtain ⟨-, -, hn⟩ := (rebound_call hn).resolve_left fun hrebind => hne hrebind.1
    rcases hm with hm | rfl
    · exact h.since n hn hgone m hm haddress
    · obtain ⟨hborn, hgonem⟩ := hlives.held _ hself m rfl
      exact hlives.apart m hborn n (h.rebound n hn) haddress hgonem hgone
  · intro n hn hattached
    rcases rebound_call hn with ⟨rfl, -⟩ | ⟨hrebind, hne, hn⟩
    · exact .inr (.inl (.inl (hafter (by simp [Wiring.call]))))
    · have hstill := hattached
      have hattached := (attached_call hattached).resolve_left hne
      have hnot : c ≠ .rebindTransport := hrebind
      rcases h.sought n hn hattached with hmem | (hensure | ⟨c', hc', hahead⟩) | ⟨c', hc', hhooks⟩ | hskipped
      · exact .inl (listeners_call hmem)
      · rcases Multiset.mem_cons.mp hensure with rfl | hensure
        · obtain ⟨hwalk, hahead⟩ := walk_of_ensure made others hattached
          exact .inr (.inl (.inr ⟨_, hafter hwalk, hahead⟩))
        · exact .inr (.inl (.inl (Multiset.mem_add.mpr (.inr hensure))))
      · rcases Multiset.mem_cons.mp hc' with rfl | hc'
        · cases c' with
          | walk k i =>
            rcases walk_call made others hahead with hhook | ⟨hwalk, hahead⟩
            · exact .inr (.inr (.inl ⟨_, hafter hhook, .inl rfl⟩))
            · exact .inr (.inl (.inr ⟨_, hafter hwalk, hahead⟩))
          | _ => cases hahead
        · rcases ahead_call hc' hahead hstill with hahead | hskipped
          · exact .inr (.inl (.inr ⟨c', Multiset.mem_add.mpr (.inr hc'), hahead⟩))
          · exact .inr (.inr (.inr hskipped))
      · rcases Multiset.mem_cons.mp hc' with rfl | hc'
        · rcases hooks_call made others s hhooks with hmem | hnext | ⟨rfl, hmark⟩
          · exact .inl hmem
          · exact .inr (.inr (.inl hnext))
          · obtain ⟨m, hm, haddress⟩ := h.hooked _ hmark
            have hgone := (hlives.attached n hattached).2
            rw [← h.since n hn hgone m hm haddress]
            exact .inl (listeners_call (h.passed m hm).2)
        · exact .inr (.inr (.inl ⟨c', Multiset.mem_add.mpr (.inr hc'), hhooks⟩))
      · exact .inr (.inr (.inr (skipped_of_skipped hskipped hnot)))
  · intro n hn
    obtain ⟨hne, hn⟩ := seen_call hn
    -- A mark that the bridge finds is of the transport itself, or of one that is gone.
    have hfound : c = .hookSingleTransport n → (made n).address ∈ s.hooked →
        .bridge ∈ (Wiring.call made others c s).2.listeners n ∨ ∃ m ∈ (Wiring.call made others c s).2.passed,
          m ∈ (Wiring.call made others c s).2.gone ∧ (made m).address = (made n).address := by
      intro hc hmark
      obtain ⟨m, hm, haddress⟩ := h.hooked _ hmark
      obtain ⟨hborn, hgone⟩ := hlives.held c hself n (by rw [hc, Call.holds])
      by_cases hgonem : m ∈ s.gone
      · exact .inr ⟨m, passed_of_passed hm hne, gone_of_gone hgonem, haddress⟩
      · rw [hlives.apart n hborn m (h.passed m hm).1 haddress.symm hgone hgonem]
        exact .inl (listeners_call (h.passed m hm).2)
    have hhooked : Hooks n c → .bridge ∈ (Wiring.call made others c s).2.listeners n ∨
        (∃ c' ∈ (Wiring.call made others c s).1 + others, Hooks n c') ∨ ∃ m ∈ (Wiring.call made others c s).2.passed,
          m ∈ (Wiring.call made others c s).2.gone ∧ (made m).address = (made n).address := by
      intro hhooks
      rcases hooks_call made others s hhooks with hmem | hnext | ⟨hc, hmark⟩
      · exact .inl hmem
      · exact .inr (.inl hnext)
      · exact (hfound hc hmark).imp_right .inr
    rcases hn with hn | rfl
    · rcases h.seen n hn with hmem | ⟨c', hc', hhooks⟩ | ⟨m, hm, hgone, haddress⟩
      · exact .inl (listeners_call hmem)
      · rcases Multiset.mem_cons.mp hc' with rfl | hc'
        · exact hhooked hhooks
        · exact .inr (.inl ⟨c', Multiset.mem_add.mpr (.inr hc'), hhooks⟩)
      · exact .inr (.inr ⟨m, passed_of_passed hm hne, gone_of_gone hgone, haddress⟩)
    · exact hhooked (.inl rfl)

/-! ### Nobody listens twice -/

/-- A listener is there once, or one thread is to add it, unless two threads were adding it at once. -/
def Once (P : Multiset Call) (s : Hub) : Prop :=
  ∀ n l, (n, l) ∉ s.crossed → P.count (.appendListener n l) + (s.listeners n).count l ≤ 1

theorem crossed_of_crossed {e : Nat × Listener} (h : e ∈ s.crossed) : e ∈ (call made others c s).2.crossed := by
  cases c <;> simp only [call] <;> grind

theorem listeners_of_ne (hc : ∀ l, c ≠ .appendListener n l) :
    (call made others c s).2.listeners n = s.listeners n := by
  cases c <;> simp only [call] <;> grind [Function.update]

theorem Once.call (h : Once (c ::ₘ others) s) :
    Once ((call made others c s).1 + others) (call made others c s).2 := by
  intro n l hcrossed
  have hbefore := h n l fun hmem => hcrossed (crossed_of_crossed hmem)
  rw [Multiset.count_cons] at hbefore
  rw [Multiset.count_add, Multiset.coe_count]
  by_cases happend : ∃ l', c = .appendListener n l'
  · obtain ⟨l', rfl⟩ := happend
    have hnone : (Wiring.call made others (.appendListener n l') s).1.count (.appendListener n l) = 0 := by
      refine List.count_eq_zero.mpr fun hmem => ?_
      cases (appendListener_from hmem).1
    have hlisteners : ((Wiring.call made others (.appendListener n l') s).2.listeners n).count l =
        (s.listeners n).count l + if l' = l then 1 else 0 := by
      simp [Wiring.call, List.count_singleton]
    rw [hnone, hlisteners]
    by_cases hl : l' = l
    · rw [if_pos hl]
      rw [if_pos (by rw [hl])] at hbefore
      omega
    · rw [if_neg hl]
      omega
  · rw [listeners_of_ne fun l' hc => happend ⟨l', hc⟩]
    by_cases hmem : .appendListener n l ∈ (Wiring.call made others c s).1
    · obtain ⟨rfl, hl⟩ := appendListener_from hmem
      have hnot : .appendListener n l ∉ others := by
        intro hothers
        refine hcrossed ?_
        simp [Wiring.call, hl, hothers]
      have hone : (Wiring.call made others (.addListener n l) s).1.count (.appendListener n l) = 1 := by
        simp [Wiring.call, hl]
      rw [hone, List.count_eq_zero.mpr hl, Multiset.count_eq_zero.mpr hnot]
    · rw [List.count_eq_zero.mpr hmem]
      omega

/-! ### Runs -/

/-- What is so all along. -/
structure Holds (made : Nat → Made) (P : Multiset Call) (s : Hub) : Prop where
  lives : Lives made P s
  service : Service made P s
  bridged : Bridged made P s
  once : Once P s

theorem Holds.call (h : Holds made (c ::ₘ others) s) :
    Holds made ((call made others c s).1 + others) (call made others c s).2 :=
  ⟨h.lives.call, h.service.call h.lives, h.bridged.call h.lives, h.once.call⟩

/-- What is called from outside does nothing by itself. -/
theorem Holds.spawn (h : Holds made P s) (hentry : entry s c = true) : Holds made (c ::ₘ P) s := by
  have hold : ∀ {c'}, c' ∈ P → c' ∈ c ::ₘ P := Multiset.mem_cons_of_mem
  have hnone : ∀ n l, c ≠ .addListener n l ∧ c ≠ .appendListener n l ∧ c ≠ .markInstalled n ∧ c ≠ .markHooked n := by
    intro n l
    cases c <;> simp_all [entry]
  have hnew : ∀ {c'}, c' ∈ c ::ₘ P → c' ≠ c → c' ∈ P := fun hc' hne => (Multiset.mem_cons.mp hc').resolve_left hne
  refine ⟨⟨h.lives.attached, fun c' hc' n hn => ?_, fun c' hc' n hn => ?_, h.lives.apart, h.lives.born⟩,
    ⟨fun n hn => ?_, fun n hn => ?_, h.service.late, fun a ha => ?_, fun n hn => ?_⟩,
    ⟨fun n hn => ?_, h.bridged.passed, h.bridged.hooked, h.bridged.rebound, h.bridged.since,
    fun n hn hattached => ?_, fun n hn => ?_⟩, fun n l hcrossed => ?_⟩
  · rcases Multiset.mem_cons.mp hc' with rfl | hc'
    · have hattached : n ∈ s.attached := by cases c' <;> simp_all [entry, Call.holds]
      exact h.lives.attached n hattached
    · exact h.lives.held c' hc' n hn
  · rcases Multiset.mem_cons.mp hc' with rfl | hc'
    · cases c' with
      | walk k i => cases hentry
      | _ => cases hn
    · exact h.lives.walked c' hc' n hn
  · refine h.service.adding n (hn.imp (fun hn => hnew hn ?_) fun hn => hnew hn ?_)
    · exact (hnone n _).1.symm
    · exact (hnone n _).2.1.symm
  · exact h.service.marking n (hnew hn (hnone n .bridge).2.2.1.symm)
  · rcases h.service.installed a ha with hclear | hlate | ⟨m, haddress, hwired, hm⟩
    · exact .inl (hold hclear)
    · exact .inr (.inl hlate)
    · exact .inr (.inr ⟨m, haddress, hwired, hm.imp_right hold⟩)
  · rcases h.service.wired n hn with hwired | ⟨c', hc', hinstalls⟩ | hrest
    · exact .inl hwired
    · exact .inr (.inl ⟨c', hold hc', hinstalls⟩)
    · exact .inr (.inr hrest)
  · exact h.bridged.hooking n (hnew hn (hnone n .bridge).2.2.2.symm)
  · rcases h.bridged.sought n hn hattached with hmem | (hensure | ⟨c', hc', hahead⟩) | ⟨c', hc', hhooks⟩ | hskipped
    · exact .inl hmem
    · exact .inr (.inl (.inl (hold hensure)))
    · exact .inr (.inl (.inr ⟨c', hold hc', hahead⟩))
    · exact .inr (.inr (.inl ⟨c', hold hc', hhooks⟩))
    · exact .inr (.inr (.inr hskipped))
  · rcases h.bridged.seen n hn with hmem | ⟨c', hc', hhooks⟩ | hgone
    · exact .inl hmem
    · exact .inr (.inl ⟨c', hold hc', hhooks⟩)
    · exact .inr (.inr hgone)
  · rw [Multiset.count_cons_of_ne (hnone n l).2.1.symm]
    exact h.once n l hcrossed

theorem over_gone (c : Call) (s : Hub) (gone : List Nat) : c.over {s with gone} = c.over s := by cases c <;> rfl

theorem ahead_gone (c : Call) (s : Hub) (gone : List Nat) : c.ahead {s with gone} = c.ahead s := by cases c <;> rfl

/-- A transport goes that is neither attached nor held nor walked over. -/
theorem Holds.collect (h : Holds made P s) (hborn : n ∈ s.born) (hattached : n ∉ s.attached)
    (hheld : ∀ c ∈ P, c.holds ≠ some n ∧ n ∉ c.over s) : Holds made P {s with gone := n :: s.gone} := by
  refine ⟨⟨fun k hk => ?_, fun c hc k hk => ?_, fun c hc k hk => ?_,
    fun k hk m hm haddress hgone hgonem => ?_, fun k hk => ?_⟩,
    ⟨h.service.adding, h.service.marking, h.service.late, h.service.installed, fun k hk => ?_⟩,
    ⟨h.bridged.hooking, h.bridged.passed, h.bridged.hooked, h.bridged.rebound, fun k hk hgone => ?_,
    fun k hk hattached => ?_, fun k hk => ?_⟩, h.once⟩
  · refine ⟨(h.lives.attached k hk).1, fun hgone => ?_⟩
    rcases List.mem_cons.mp hgone with rfl | hgone
    · exact hattached hk
    · exact (h.lives.attached k hk).2 hgone
  · refine ⟨(h.lives.held c hc k hk).1, fun hgone => ?_⟩
    rcases List.mem_cons.mp hgone with rfl | hgone
    · exact (hheld c hc).1 hk
    · exact (h.lives.held c hc k hk).2 hgone
  · rw [over_gone] at hk
    refine ⟨(h.lives.walked c hc k hk).1, fun hgone => ?_⟩
    rcases List.mem_cons.mp hgone with rfl | hgone
    · exact (hheld c hc).2 hk
    · exact (h.lives.walked c hc k hk).2 hgone
  · exact h.lives.apart k hk m hm haddress (List.not_mem_of_not_mem_cons hgone) (List.not_mem_of_not_mem_cons hgonem)
  · rcases List.mem_cons.mp hk with rfl | hk
    · exact hborn
    · exact h.lives.born k hk
  · rcases h.service.wired k hk with hwired | hinstalls | hhasty | ⟨m, hm, hgone, haddress⟩
    · exact .inl hwired
    · exact .inr (.inl hinstalls)
    · exact .inr (.inr (.inl hhasty))
    · exact .inr (.inr (.inr ⟨m, hm, List.mem_cons_of_mem _ hgone, haddress⟩))
  · exact h.bridged.since k hk (List.not_mem_of_not_mem_cons hgone)
  · simpa only [ahead_gone] using h.bridged.sought k hk hattached
  · rcases h.bridged.seen k hk with hmem | hhooks | ⟨m, hm, hgone, haddress⟩
    · exact .inl hmem
    · exact .inr (.inl hhooks)
    · exact .inr (.inr ⟨m, hm, List.mem_cons_of_mem _ hgone, haddress⟩)

theorem holds_begun : Holds made 0 {} := by
  refine ⟨⟨?_, ?_, ?_, ?_, ?_⟩, ⟨?_, ?_, ?_, ?_, ?_⟩, ⟨?_, ?_, ?_, ?_, ?_, ?_, ?_⟩, ?_⟩ <;> simp [Once]

theorem Holds.step {s : System} (h : Holds made s.pending s.shared) (a : Act) :
    Holds made (step made s a).pending (step made s a).shared := by
  cases a with
  | spawn c =>
    simp only [Wiring.step]
    split
    · next hentry =>
      rw [Pool.pending_spawn, Pool.shared_spawn]
      exact h.spawn hentry
    · exact h
  | next i => exact Pool.keeps_next (fun c others f hf => hf.call) h i
  | collect n =>
    simp only [Wiring.step]
    split
    · next hdropped =>
      obtain ⟨hborn, hattached, hheld⟩ := hdropped
      refine h.collect hborn hattached fun c hc => ?_
      obtain ⟨calls, hcalls, hc⟩ := List.mem_flatten.mp (Multiset.mem_coe.mp hc)
      exact hheld calls hcalls c hc
    · exact h

theorem holds_run (made : Nat → Made) (acts : List Act) :
    Holds made (run made acts).pending (run made acts).shared :=
  List.foldlRecOn (motive := fun s : System => Holds made s.pending s.shared) acts (step made) holds_begun
    fun _ h a _ => h.step a

/-- **An attached transport that no thread is at work on hands what it hears and what it sends to the service, unless
it was looked at while all marks were to be cleared, or lies where a transport lay that was marked when it was no
longer attached, or left with its mark when all were closed. None of its listeners is there twice, unless two threads
were adding it at once.** -/
theorem service_run (made : Nat → Made) (acts : List Act) {n : Nat} (hn : n ∈ (run made acts).shared.attached)
    (hidle : ∀ c ∈ (run made acts).pending, c.holds ≠ some n) :
    (Wired (run made acts).shared n ∨ n ∈ (run made acts).shared.hasty ∨ ∃ m ∈ (run made acts).shared.late,
      m ∈ (run made acts).shared.gone ∧ (made m).address = (made n).address) ∧
    ∀ l, (n, l) ∉ (run made acts).shared.crossed → ((run made acts).shared.listeners n).count l ≤ 1 := by
  have h := holds_run made acts
  refine ⟨?_, fun l hcrossed => ?_⟩
  · rcases h.service.wired n hn with hwired | ⟨c, hc, hinstalls⟩ | hrest
    · exact .inl hwired
    · refine absurd ?_ (hidle c hc)
      rcases hinstalls with rfl | ⟨l, -, rfl | rfl⟩
      · rfl
      · rfl
      · rfl
    · exact .inr hrest
  · have honce := h.once n l hcrossed
    omega

/-- **The bridge listens to every transport that was attached at its last rebind and still is, once no walk is to come
to it, unless a detach has moved it behind a walk. To one that it has looked at since, it listens unless that lies
where a transport lay which it marked before and which is gone.** -/
theorem bridge_run (made : Nat → Made) (acts : List Act) {n : Nat} (hn : n ∈ (run made acts).shared.attached)
    (hidle : ∀ c ∈ (run made acts).pending, c.holds ≠ some n) :
    (n ∈ (run made acts).shared.rebound → .ensureTransportHooked ∉ (run made acts).pending →
      (∀ c ∈ (run made acts).pending, n ∉ c.ahead (run made acts).shared) →
      .bridge ∈ (run made acts).shared.listeners n ∨ n ∈ (run made acts).shared.skipped) ∧
    (n ∈ (run made acts).shared.seen → .bridge ∈ (run made acts).shared.listeners n ∨
      ∃ m ∈ (run made acts).shared.passed, m ∈ (run made acts).shared.gone ∧ (made m).address = (made n).address) := by
  have h := holds_run made acts
  have hnone : ¬ ∃ c ∈ (run made acts).pending, Hooks n c := by
    rintro ⟨c, hc, rfl | rfl | rfl⟩
    · exact hidle _ hc rfl
    · exact hidle _ hc rfl
    · exact hidle _ hc rfl
  refine ⟨fun hrebound hensure hahead => ?_, fun hseen => ?_⟩
  · rcases h.bridged.sought n hrebound hn with hmem | (hmem | ⟨c, hc, hmem⟩) | hhooks | hskipped
    · exact .inl hmem
    · exact absurd hmem hensure
    · exact absurd hmem (hahead c hc)
    · exact absurd hhooks hnone
    · exact .inr hskipped
  · exact (h.bridged.seen n hseen).imp_right fun hrest => hrest.resolve_left hnone

/-! ### A gateway that is plugged in again -/

/-- Each transport of the gateway lies where the last one lay. -/
def replugged (_ : Nat) : Made where
  ident := "AABBCCDDEE01"
  address := 7

def discovered : List Act := .spawn (.discoverPort [] [0] false false) :: List.replicate 24 (.next 0)

theorem service_replugged : Wired (run replugged discovered).shared 0 ∧
    ((run replugged discovered).shared.listeners 0).count .onTransportEvent ≤ 1 := by
  have hrun := service_run replugged discovered (n := 0) (by decide +kernel) (by decide +kernel)
  have hhasty : 0 ∉ (run replugged discovered).shared.hasty := by decide +kernel
  have hlate : (run replugged discovered).shared.late = [] := by decide +kernel
  refine ⟨hrun.1.resolve_right fun hrest => ?_, hrun.2 _ (by decide +kernel)⟩
  rcases hrest with hmem | ⟨m, hm, -⟩
  · exact hhasty hmem
  · rw [hlate] at hm
    cases hm

theorem bridge_replugged : .bridge ∈ (run replugged discovered).shared.listeners 0 :=
  ((bridge_run replugged discovered (n := 0) (by decide +kernel) (by decide +kernel)).1 (by decide +kernel)
    (by decide +kernel) (by decide +kernel)).resolve_right (by decide +kernel)

/-- Taken out while the bridge walks the list, one gateway moves the next to where the walk has been. -/
example : let made (n : Nat) : Made := {ident := if n = 0 then "AABBCCDDEE01" else "AABBCCDDEE02", address := n}
    let acts := .spawn (.discoverPort [] [0, 1] false false) :: List.replicate 30 (.next 0) ++
      .spawn (.detachOneTransport "AABBCCDDEE01") :: List.replicate 3 (.next 1) ++ [.next 0]
    (run made acts).shared.attached = [1] ∧ (run made acts).pending = 0 ∧
      (run made acts).shared.listeners 1 = [.onTransportEvent, .onTransportTx] := by decide +kernel

/-- Found again without a rebind, it is not looked at by the bridge, whose mark is of the one that is gone. -/
example : let acts := discovered ++ .spawn (.detachOneTransport "AABBCCDDEE01") :: List.replicate 3 (.next 1) ++
      .collect 0 :: .spawn (.softRediscover [1] []) :: List.replicate 10 (.next 2) ++
      .spawn .ensureTransportHooked :: List.replicate 5 (.next 3)
    (run replugged acts).shared.attached = [1] ∧ (run replugged acts).pending = 0 ∧
      (run replugged acts).shared.listeners 1 = [.onTransportEvent, .onTransportTx] := by decide +kernel

/-- Sent through while it is detached, it leaves a mark behind, and the next one is not listened to. -/
example : let acts := discovered ++ .spawn (.installTransportHooks 0) ::
      .spawn (.detachOneTransport "AABBCCDDEE01") :: List.replicate 3 (.next 2) ++ List.replicate 4 (.next 1) ++
      .collect 0 :: .spawn (.softRediscover [1] []) :: List.replicate 5 (.next 3)
    (run replugged acts).shared.attached = [1] ∧ (run replugged acts).pending = 0 ∧
      (run replugged acts).shared.listeners 1 = [] := by decide +kernel

end RaceLink.Gateways.Wiring
