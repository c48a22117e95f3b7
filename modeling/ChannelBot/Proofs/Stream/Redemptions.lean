/-
The course of handling a redemption. The channel is looked up, the action for the reward is fetched and run, and its
text is said, each step once and only after the one before it gave something to go on with (`Redemption.Course`). So
the steps come in order, and each is taken exactly if the one before it gave such a thing
(`Redemption.redemptions_speak_only_on_success`).
-/
import ChannelBot.Proofs.Router.Interpret
import ChannelBot.Proofs.Stream.Frames

namespace ChannelBot

namespace Redemption

open Dialogue

/-! ## What a redemption says -/

/-- The fields of a redemption say which reward was redeemed, the title of the reward, and who redeemed it. -/
structure Tells (fields reward : List (String × Value)) (title user : Value) : Prop where
  rewarded : ((Value.lookup? "reward" fields).getD .null).orElse (.obj []) = .obj reward
  titled : (Value.lookup? "title" reward).getD .null = title
  redeemed : ∃ redeemer, ((Value.lookup? "user" fields).getD .null).orElse (.obj []) = .obj redeemer ∧
    ((Value.lookup? "login" redeemer).getD .null).orElse (.str "") = user

variable {known : List (String × String)} {channelId : String} {details title user : Value}
  {fields reward : List (String × Value)} {turns : List (Turn surroundings)}

/-- What can be read says something. -/
theorem readable_iff_tells :
    Readable details ↔ ∃ fields reward title user, details = .obj fields ∧ Tells fields reward title user := by
  constructor
  · rintro ⟨fields, rfl, hreward, huser⟩
    obtain ⟨reward, hreward⟩ := Value.orElse_isObject_iff.mpr hreward
    obtain ⟨redeemer, huser⟩ := Value.orElse_isObject_iff.mpr huser
    exact ⟨fields, reward, _, _, rfl, hreward, rfl, redeemer, huser, rfl⟩
  · rintro ⟨fields, reward, title, user, rfl, hreward, -, redeemer, huser, -⟩
    exact ⟨fields, rfl, Value.orElse_isObject_iff.mp ⟨reward, hreward⟩, Value.orElse_isObject_iff.mp ⟨redeemer, huser⟩⟩

theorem handle_tells (known : List (String × String)) (channelId : String) (h : Tells fields reward title user) :
    handle known channelId (.obj fields) = settle known channelId (.obj reward) (.obj fields) title user := by
  obtain ⟨hreward, rfl, redeemer, huser, rfl⟩ := h
  simp only [handle, Value.get_obj, mapError_ok, Attempt.ofExcept_ok_bind, hreward, huser]
  rfl

/-- The reward asks for an input. -/
def AsksInput (reward : List (String × Value)) : Prop :=
  ((Value.lookup? "is_user_input_required" reward).getD .null).holds = true

/-- The input that comes with a redemption, none being an empty one. -/
def input (fields : List (String × Value)) : Value := ((Value.lookup? "user_input" fields).getD .null).orElse (.str "")

/-- The arguments are the words of the input if the reward asks for one, and else there are none. -/
theorem arguments_eq_ok_iff {args : List String} : arguments (.obj reward) (.obj fields) = .ok args ↔
    AsksInput reward ∧ (∃ text, input fields = .str text ∧ args = Text.words text) ∨
      ¬ AsksInput reward ∧ args = [] := by
  have hinput : ((Value.lookup? "user_input" fields).getD .null).orElse (.str "") = input fields := rfl
  rw [arguments, bind_eq_ok_iff, AsksInput]
  simp only [Value.get_obj, Except.ok.injEq, exists_eq_left']
  cases ((Value.lookup? "is_user_input_required" reward).getD .null).holds with
  | true =>
    rw [if_pos rfl, bind_eq_ok_iff]
    simp only [Except.ok.injEq, exists_eq_left', hinput]
    cases input fields <;> simp [eq_comm, pure, Except.pure, throw]
  | false => simp [eq_comm, pure, Except.pure]

/-! ## The course of a redemption -/

/-- What the handling of a redemption starts from: the table of known channels, the id of the channel, and what the
redemption says. -/
structure Order where
  known : List (String × String)
  channelId : String
  reward : Value
  details : Value
  title : Value
  user : Value

/-- The channel of an id was found in the table of known ones, or it was asked for. -/
inductive Looked (o : Order) : List (Turn surroundings) → Except Fault (Option String) → Prop
  | known {login : String} (h : filled? (o.known.lookup o.channelId) = some login) : Looked o [] (.ok (some login))
  | asked (answer : Except Fault (Option String)) (h : filled? (o.known.lookup o.channelId) = none) :
    Looked o [⟨.login o.channelId, answer⟩] (answer.map filled?)

variable {o : Order} {a : Except Fault Unit}

theorem runs_channelLogin {x : Except Fault (Option String)} :
    Runs (channelLogin o.known o.channelId).outcome turns x ↔ Looked o turns x := by
  rw [channelLogin]
  cases hknown : filled? (o.known.lookup o.channelId) with
  | some login =>
    simp only [Attempt.runs_pure]
    constructor
    · rintro ⟨rfl, rfl⟩
      exact .known hknown
    · intro h
      cases h with
      | known h =>
        obtain rfl := Option.some.inj (hknown.symm.trans h)
        exact ⟨rfl, rfl⟩
      | asked answer h => cases hknown.symm.trans h
  | none =>
    rw [Attempt.runs_bind_pure]
    constructor
    · rintro ⟨answer, hasked, rfl⟩
      obtain rfl := runs_query.mp hasked
      exact .asked answer hknown
    · intro h
      cases h with
      | known h => cases hknown.symm.trans h
      | asked answer h => exact ⟨answer, runs_query.mpr rfl, rfl⟩

/-- The questions to which the answers give nothing to say. -/
inductive Quiet (o : Order) : List (Turn surroundings) → Prop
  | unplaced {first : List (Turn surroundings)} {x : Except Fault (Option String)} (looked : Looked o first x)
    (h : ∀ channel, x ≠ .ok (some channel)) : Quiet o first
  | unset {first : List (Turn surroundings)} {channel : String} {answer : Except Fault Value}
    (looked : Looked o first (.ok (some channel))) (h : ∀ body, answer = .ok body → body = .null) :
    Quiet o (first ++ [⟨.action o.title channel, answer⟩])
  | unread {first : List (Turn surroundings)} {channel : String} {body : Value}
    (looked : Looked o first (.ok (some channel))) (hbody : body ≠ .null)
    (h : ∀ args, arguments o.reward o.details ≠ .ok args) :
    Quiet o (first ++ [⟨.action o.title channel, .ok body⟩])
  | textless {first : List (Turn surroundings)} {channel : String} {body : Value} {args : List String}
    {answer : Except Fault Value} (looked : Looked o first (.ok (some channel))) (hbody : body ≠ .null)
    (hargs : arguments o.reward o.details = .ok args) (h : ∀ text, answer = .ok text → text.holds = false) :
    Quiet o (first ++ [⟨.action o.title channel, .ok body⟩, ⟨.run body args channel o.user, answer⟩])

/-- The questions to which the answers give a text to say in a channel. -/
inductive Worded (o : Order) : List (Turn surroundings) → String → Value → Prop
  | intro {first : List (Turn surroundings)} {channel : String} {body : Value} {args : List String} {text : Value}
    (looked : Looked o first (.ok (some channel))) (hbody : body ≠ .null)
    (hargs : arguments o.reward o.details = .ok args) (h : text.holds = true) :
    Worded o (first ++ [⟨.action o.title channel, .ok body⟩, ⟨.run body args channel o.user, .ok text⟩]) channel text

/-- Once the action is fetched, its arguments are read, and it is run. -/
theorem runs_body {first rest : List (Turn surroundings)} {channel : String} {body : Value}
    {x : Except Fault (Option (String × Value))} (looked : Looked o first (.ok (some channel)))
    (hbody : body ≠ .null)
    (h : Runs (do
      let args ← Attempt.ofExcept ((arguments o.reward o.details).mapError .shape)
      let text ← runAction body args channel o.user
      return if text.holds then some (channel, text) else none : Attempt surroundings _).outcome rest x) :
    (Quiet o (first ++ ([⟨.action o.title channel, .ok body⟩] ++ rest)) ∧
        ∀ said, x ≠ .ok (some said)) ∨
      ∃ c text, Worded o (first ++ ([⟨.action o.title channel, .ok body⟩] ++ rest)) c text ∧
        x = .ok (some (c, text)) := by
  cases hargs : arguments o.reward o.details with
  | error e =>
    rw [hargs] at h
    obtain ⟨rfl, rfl⟩ := Attempt.runs_fail.mp h
    refine .inl ⟨.unread looked hbody ?_, nofun⟩
    rw [hargs]
    nofun
  | ok args =>
    rw [hargs] at h
    obtain ⟨answer, hrun, rfl⟩ := Attempt.runs_bind_pure.mp h
    obtain rfl := runs_query.mp hrun
    cases answer with
    | error e => exact .inl ⟨.textless looked hbody hargs nofun, nofun⟩
    | ok text =>
      cases hholds : text.holds with
      | false =>
        refine .inl ⟨.textless looked hbody hargs fun text' htext => ?_, ?_⟩
        · obtain rfl := Except.ok.inj htext
          exact hholds
        · simp [Except.map, hholds]
      | true => exact .inr ⟨channel, text, .intro looked hbody hargs hholds, by simp [Except.map, hholds]⟩

/-- Either there is nothing to say, or it is a text in a channel. -/
theorem runs_answer {x : Except Fault (Option (String × Value))}
    (h : Runs (answer o.known o.channelId o.reward o.details o.title o.user).outcome turns x) :
    (Quiet o turns ∧ ∀ said, x ≠ .ok (some said)) ∨
      ∃ channel text, Worded o turns channel text ∧ x = .ok (some (channel, text)) := by
  rw [answer] at h
  rcases Attempt.runs_bind.mp h with ⟨first, rest, found, rfl, hlook, hrest⟩ | ⟨e, hlook, rfl⟩
  · have looked := runs_channelLogin.mp hlook
    cases found with
    | none =>
      obtain ⟨rfl, rfl⟩ := Attempt.runs_pure.mp hrest
      rw [List.append_nil]
      exact .inl ⟨.unplaced looked nofun, nofun⟩
    | some channel =>
      rcases Attempt.runs_bind.mp hrest with ⟨asked, later, body, rfl, hask, hlater⟩ | ⟨e, hask, rfl⟩
      · obtain rfl := runs_query.mp hask
        split at hlater
        next =>
          obtain ⟨rfl, rfl⟩ := Attempt.runs_pure.mp hlater
          rw [List.append_nil]
          exact .inl ⟨.unset looked fun body hbody => (Except.ok.inj hbody).symm, nofun⟩
        next hbody => exact runs_body looked hbody hlater
      · obtain rfl := runs_query.mp hask
        exact .inl ⟨.unset looked nofun, nofun⟩
  · exact .inl ⟨.unplaced (runs_channelLogin.mp hlook) nofun, nofun⟩

/-- The course of handling a redemption whose reward and user could be read. -/
inductive Course (o : Order) : List (Turn surroundings) → Except Fault Unit → Prop
  | untitled (h : o.title.holds = false) : Course o [] (.ok ())
  | quiet {turns : List (Turn surroundings)} (titled : o.title.holds = true) (h : Quiet o turns) :
    Course o turns (.ok ())
  | said {first : List (Turn surroundings)} {channel : String} {text : Value} (titled : o.title.holds = true)
    (h : Worded o first channel text) (answer : Except Fault Unit) :
    Course o (first ++ [⟨.say channel text, answer⟩]) answer

theorem runs_settle_course (h : Runs (settle o.known o.channelId o.reward o.details o.title o.user).outcome turns a) :
    Course o turns a := by
  rw [settle] at h
  split at h
  next titled =>
    obtain ⟨first, rest, x, rfl, hanswer, hsaid⟩ := Attempt.runs_sure_bind.mp h
    rcases runs_answer hanswer with ⟨hquiet, hnone⟩ | ⟨channel, text, hworded, rfl⟩
    · have hended : rest = [] ∧ a = .ok () := by
        split at hsaid
        next channel text => exact absurd rfl (hnone (channel, text))
        next => exact Attempt.runs_pure.mp hsaid
      obtain ⟨rfl, rfl⟩ := hended
      rw [List.append_nil]
      exact .quiet titled hquiet
    · obtain rfl := runs_query.mp hsaid
      exact .said titled hworded a
  next untitled =>
    obtain ⟨rfl, rfl⟩ := Attempt.runs_pure.mp h
    exact .untitled (Bool.eq_false_iff.mpr untitled)

/-! ## The steps of a course -/

/-- The place of a question in the course of a redemption. -/
def Query.stage : Query → Nat
  | .login _ => 0
  | .action .. => 1
  | .run .. => 2
  | .say .. => 3

/-- The channel of an id: the one in the table of known ones, or the one that was answered. -/
def Resolves (known : List (String × String)) (channelId : String) (turns : List (Turn surroundings))
    (channel : String) : Prop :=
  filled? (known.lookup channelId) = some channel ∨ filled? (known.lookup channelId) = none ∧
    ∃ answer, ⟨.login channelId, .ok answer⟩ ∈ turns ∧ filled? answer = some channel

variable {first rest : List (Turn surroundings)} {x : Except Fault (Option String)}

theorem Looked.ordered (h : Looked o first x) : first.Pairwise fun t t' => t.query.stage < t'.query.stage := by
  cases h with
  | known => exact .nil
  | asked => exact List.pairwise_singleton _ _

theorem Looked.stage (h : Looked o first x) : ∀ t ∈ first, t.query.stage = 0 := by
  cases h with
  | known => simp
  | asked => simp [Query.stage]

theorem Looked.ordered_append (h : Looked o first x) (hrest : rest.Pairwise fun t t' => t.query.stage < t'.query.stage)
    (hlater : ∀ t ∈ rest, 0 < t.query.stage) :
    (first ++ rest).Pairwise fun t t' => t.query.stage < t'.query.stage := by
  refine List.pairwise_append.mpr ⟨h.ordered, hrest, fun t ht t' ht' => ?_⟩
  rw [h.stage t ht]
  exact hlater t' ht'

theorem Course.ordered (h : Course o turns a) : turns.Pairwise fun t t' => t.query.stage < t'.query.stage := by
  cases h with
  | untitled => exact .nil
  | quiet titled h => cases h with
    | unplaced looked => exact looked.ordered
    | unset looked | unread looked | textless looked =>
      exact looked.ordered_append (by simp [Query.stage]) (by simp [Query.stage])
  | said titled h answer => cases h with
    | intro looked =>
      rw [List.append_assoc]
      exact looked.ordered_append (by simp [Query.stage]) (by simp [Query.stage])

/-- A question of a later stage is not asked to find the channel. -/
theorem Looked.not_mem (h : Looked o first x) {q : Query} (hq : 0 < q.stage) : ∀ answer, ⟨q, answer⟩ ∉ first :=
  fun _ hmem => Nat.lt_irrefl 0 ((h.stage _ hmem).symm ▸ hq)

theorem Looked.not_asked (h : Looked o first x) {q : Query} (hq : 0 < q.stage) : q ∉ first.map Turn.query := by
  rintro hmem
  obtain ⟨t, ht, rfl⟩ := List.mem_map.mp hmem
  exact h.not_mem hq t.answer ht

theorem Looked.login_iff (h : Looked o first x) (i : String) :
    .login i ∈ first.map Turn.query ↔ i = o.channelId ∧ filled? (o.known.lookup o.channelId) = none := by
  cases h with
  | known h => simp [h]
  | asked answer h => simp [h]

theorem Looked.resolves_iff (h : Looked o first x) (hrest : ∀ t ∈ rest, 0 < t.query.stage)
    (channel : String) : Resolves o.known o.channelId (first ++ rest) channel ↔ x = .ok (some channel) := by
  have hlater : ∀ answer : Except Fault (Option String), ⟨.login o.channelId, answer⟩ ∉ rest :=
    fun answer hmem => absurd (hrest _ hmem) (Nat.lt_irrefl 0)
  cases h with
  | known h => simp [Resolves, h]
  | asked answer h =>
    simp only [Resolves, h, reduceCtorEq, false_or, true_and, List.mem_append, hlater, or_false]
    cases answer <;> simp [Except.map]

theorem Course.login_iff (h : Course o turns a) (i : String) :
    .login i ∈ turns.map Turn.query ↔
      o.title.holds = true ∧ i = o.channelId ∧ filled? (o.known.lookup o.channelId) = none := by
  cases h with
  | untitled h => simp [h]
  | quiet titled h => cases h with
    | unplaced looked | unset looked | unread looked | textless looked => simp [titled, looked.login_iff]
  | said titled h answer => cases h with
    | intro looked => simp [titled, looked.login_iff]

theorem Course.action_iff (h : Course o turns a) (t : Value) (channel : String) :
    .action t channel ∈ turns.map Turn.query ↔
      o.title.holds = true ∧ t = o.title ∧ Resolves o.known o.channelId turns channel := by
  have hstage : 0 < (Query.action t channel).stage := Nat.one_pos
  cases h with
  | untitled h => simp [h]
  | quiet titled h => cases h with
    | unplaced looked hnone =>
      have hresolves := looked.resolves_iff (List.forall_mem_nil _) channel
      rw [List.append_nil] at hresolves
      simp [hresolves, hnone, looked.not_asked hstage]
    | unset looked | unread looked | textless looked =>
      rw [looked.resolves_iff (by simp [Query.stage])]
      simp [titled, looked.not_asked hstage, eq_comm]
  | said titled h answer => cases h with
    | intro looked =>
      rw [List.append_assoc, looked.resolves_iff (by simp [Query.stage])]
      simp [titled, looked.not_asked hstage, eq_comm]

/-- Once an action was fetched and run, these are the questions about it. -/
theorem Looked.run_iff (h : Looked o first x) {c : String} {fetched : Value} {given : List String}
    {answer : Except Fault Value} (hfetched : fetched ≠ .null) (hgiven : arguments o.reward o.details = .ok given)
    (hrest : ∀ t ∈ rest, 2 < t.query.stage) (body : Value) (args : List String) (channel : String) (caller : Value) :
    let turns := first ++ ⟨.action o.title c, .ok fetched⟩ :: ⟨.run fetched given c o.user, answer⟩ :: rest
    .run body args channel caller ∈ turns.map Turn.query ↔
      ⟨.action o.title channel, .ok body⟩ ∈ turns ∧ body ≠ .null ∧ arguments o.reward o.details = .ok args ∧
        caller = o.user := by
  intro turns
  have hrunStage : 0 < (Query.run body args channel caller).stage := Nat.two_pos
  have hactionStage : 0 < (Query.action o.title channel).stage := Nat.one_pos
  have hrun : .run body args channel caller ∉ rest.map Turn.query := by
    intro hmem
    obtain ⟨t, ht, hquery⟩ := List.mem_map.mp hmem
    exact absurd (hrest t ht) (hquery ▸ Nat.lt_irrefl 2)
  have haction : ⟨.action o.title channel, .ok body⟩ ∉ rest :=
    fun hmem => absurd (hrest _ hmem) (by decide : ¬ 2 < 1)
  have hasked : .run body args channel caller ∈ turns.map Turn.query ↔
      body = fetched ∧ args = given ∧ channel = c ∧ caller = o.user := by
    simp [turns, h.not_asked hrunStage, hrun]
  have hanswered : ⟨.action o.title channel, .ok body⟩ ∈ turns ↔ channel = c ∧ body = fetched := by
    simp [turns, h.not_mem hactionStage, haction]
  rw [hasked, hanswered, hgiven]
  constructor
  · rintro ⟨rfl, rfl, rfl, rfl⟩
    exact ⟨⟨rfl, rfl⟩, hfetched, rfl, rfl⟩
  · rintro ⟨⟨rfl, rfl⟩, -, hargs, rfl⟩
    exact ⟨rfl, (Except.ok.inj hargs).symm, rfl, rfl⟩

theorem Course.run_iff (h : Course o turns a) (body : Value) (args : List String) (channel : String) (caller : Value) :
    .run body args channel caller ∈ turns.map Turn.query ↔
      ⟨.action o.title channel, .ok body⟩ ∈ turns ∧ body ≠ .null ∧ arguments o.reward o.details = .ok args ∧
        caller = o.user := by
  have hrun : 0 < (Query.run body args channel caller).stage := Nat.two_pos
  have haction : 0 < (Query.action o.title channel).stage := Nat.one_pos
  cases h with
  | untitled h => simp
  | quiet titled h => cases h with
    | unplaced looked hnone => simp [looked.not_asked hrun, looked.not_mem haction]
    | @unset first c answer looked hnone =>
      refine iff_of_false (by simp [looked.not_asked hrun]) ?_
      rintro ⟨hmem, hbody, -⟩
      have hanswer : channel = c ∧ .ok body = answer := by simpa [looked.not_mem haction] using hmem
      exact hbody (hnone body hanswer.2.symm)
    | unread looked hbody hargs => simp [looked.not_asked hrun, looked.not_mem haction, hargs]
    | textless looked hbody hargs => exact looked.run_iff hbody hargs (by simp) body args channel caller
  | said titled h answer => cases h with
    | intro looked hbody hargs =>
      rw [List.append_assoc]
      exact looked.run_iff hbody hargs (by simp [Query.stage]) body args channel caller

theorem Course.say_iff (h : Course o turns a) (channel : String) (text : Value) :
    .say channel text ∈ turns.map Turn.query ↔
      (∃ body args, ⟨.run body args channel o.user, .ok text⟩ ∈ turns) ∧ text.holds = true := by
  have hsay : 0 < (Query.say channel text).stage := Nat.succ_pos 2
  have hrun : ∀ body args, 0 < (Query.run body args channel o.user).stage := fun _ _ => Nat.two_pos
  cases h with
  | untitled h => simp
  | quiet titled h => cases h with
    | unplaced looked | unset looked | unread looked => simp [looked.not_asked hsay, looked.not_mem (hrun _ _)]
    | @textless first c fetched given answer looked hbody hargs hnone =>
      refine iff_of_false (by simp [looked.not_asked hsay]) ?_
      rintro ⟨⟨body, args, hmem⟩, hholds⟩
      have hanswer : (body = fetched ∧ args = given ∧ channel = c) ∧ .ok text = answer := by
        simpa [looked.not_mem (hrun _ _)] using hmem
      exact Bool.false_ne_true ((hnone text hanswer.2.symm).symm.trans hholds)
  | said titled h answer => cases h with
    | intro looked hbody hargs hholds =>
      simp +contextual [looked.not_asked hsay, looked.not_mem (hrun _ _), hholds]

theorem Course.error_iff (h : Course o turns a) (e : Fault) :
    a = .error e ↔ ∃ channel text, ⟨.say channel text, .error e⟩ ∈ turns := by
  have hsay : ∀ channel text, 0 < (Query.say channel text).stage := fun _ _ => Nat.succ_pos 2
  cases h with
  | untitled h => simp
  | quiet titled h => cases h with
    | unplaced looked | unset looked | unread looked | textless looked => simp [looked.not_mem (hsay _ _)]
  | said titled h answer => cases h with
    | intro looked => simp [looked.not_mem (hsay _ _), eq_comm]

/-- A question that failed. -/
def Failed : Turn surroundings → Prop
  | ⟨.login _, answer⟩ => ∃ e, answer = .error e
  | ⟨.action .., answer⟩ => ∃ e, answer = .error e
  | ⟨.run .., answer⟩ => ∃ e, answer = .error e
  | ⟨.say .., answer⟩ => ∃ e, answer = .error e

theorem Looked.not_failed {channel : Option String} (h : Looked o first (.ok channel)) : ∀ t ∈ first, ¬ Failed t := by
  generalize hx : Except.ok channel = x at h
  cases h with
  | known => simp
  | asked answer =>
    cases answer with
    | error e => cases hx
    | ok login => simp [Failed]

/-- After a failure nothing is said. -/
theorem Course.silent (h : Course o turns a) {t : Turn surroundings}
    (ht : t ∈ turns) (hstage : t.query.stage < 3) (hfailed : Failed t) (channel : String) (text : Value) :
    .say channel text ∉ turns.map Turn.query := by
  have hsay : 0 < (Query.say channel text).stage := Nat.succ_pos 2
  cases h with
  | untitled h => cases ht
  | quiet titled h => cases h with
    | unplaced looked | unset looked | unread looked | textless looked => simp [looked.not_asked hsay]
  | said titled h answer => cases h with
    | intro looked =>
      simp only [List.append_assoc, List.mem_append, List.mem_cons, List.not_mem_nil, or_false] at ht
      rcases ht with ht | (rfl | rfl) | rfl
      · exact absurd hfailed (looked.not_failed t ht)
      · obtain ⟨e, he⟩ := hfailed
        cases he
      · obtain ⟨e, he⟩ := hfailed
        cases he
      · exact absurd hstage (Nat.lt_irrefl 3)

end Redemption

/-! ## Running the action -/

/-- What comes of running a body is nothing, or a text that is not empty. -/
theorem Router.runs_runCustom {r : Rules} {body caller v : Value} {args : List String} {channel : String}
    {turns : List (Dialogue.Turn surroundings)}
    (h : Dialogue.Runs (runCustom r body args channel caller).outcome turns (.ok v)) :
    v = .null ∨ ∃ text, text ≠ "" ∧ v = .str text := by
  obtain ⟨x, hx, hv⟩ := Attempt.runs_bind_pure.mp h
  obtain ⟨text, rfl, rfl⟩ := map_eq_ok_iff.mp hv.symm
  rw [Script.interpret] at hx
  split at hx
  next => cases (Attempt.runs_fail.mp hx).2
  next steps _ =>
    rcases Attempt.runs_bind.mp hx with ⟨first, rest, pieces, rfl, -, hend⟩ | ⟨e, -, he⟩
    · split at hend
      next => cases (Attempt.runs_fail.mp hend).2
      next joined _ =>
        obtain ⟨-, htext⟩ := Attempt.runs_pure.mp hend
        obtain rfl := Except.ok.inj htext
        rw [Script.nonempty?]
        split
        next => exact .inl rfl
        next hfilled => exact .inr ⟨joined, mt String.isEmpty_iff.mpr hfilled, rfl⟩
    · cases he

/-! ## Redemptions speak only on success -/

namespace Redemption

open Dialogue

/-- **A redemption is processed once, and speaks only on success.** Take a redemption that can be read, any table of
known channels, and any answers or failures of the lookup, the store, the action and chat. Its questions come in
order, so that each is asked once at most: the lookup if the reward has a title and the channel is not known; the
action for the title, in the channel that was found; the run of just that action, for whoever redeemed the reward and
with the words of the input, if the reward asks for one; and just the text that the run gave is said in the channel,
if it is not empty. The handling fails only where chat does; after any other failure nothing is said. An action
that is run as a custom command gives nothing or a text that is not empty. -/
theorem redemptions_speak_only_on_success {known : List (String × String)} {channelId : String} {details : Value}
    {turns : List (Turn surroundings)} {a : Except Fault Unit} (hreadable : Readable details)
    (hruns : Runs (handle known channelId details).outcome turns a) :
    ∃ fields reward title user, details = .obj fields ∧ Tells fields reward title user ∧
    turns.Pairwise (fun t t' => t.query.stage < t'.query.stage) ∧
    (∀ i, .login i ∈ turns.map Turn.query ↔
      title.holds = true ∧ i = channelId ∧ filled? (known.lookup channelId) = none) ∧
    (∀ t channel, .action t channel ∈ turns.map Turn.query ↔
      title.holds = true ∧ t = title ∧ Resolves known channelId turns channel) ∧
    (∀ body args channel caller, .run body args channel caller ∈ turns.map Turn.query ↔
      ⟨.action title channel, .ok body⟩ ∈ turns ∧ body ≠ .null ∧
      (AsksInput reward ∧ (∃ text, input fields = .str text ∧ args = Text.words text) ∨
        ¬ AsksInput reward ∧ args = []) ∧ caller = user) ∧
    (∀ channel text, .say channel text ∈ turns.map Turn.query ↔
      (∃ body args, ⟨.run body args channel user, .ok text⟩ ∈ turns) ∧ text.holds = true) ∧
    (∀ e, a = .error e ↔ ∃ channel text, ⟨.say channel text, .error e⟩ ∈ turns) ∧
    (∀ t ∈ turns, t.query.stage < 3 → Failed t → ∀ channel text, .say channel text ∉ turns.map Turn.query) ∧
    ∀ (r : Router.Rules) body args channel caller inner v,
      Runs (Router.runCustom r body args channel caller).outcome inner (.ok v) →
      (v.holds = true ↔ ∃ text, text ≠ "" ∧ v = .str text) := by
  obtain ⟨fields, reward, title, user, rfl, tells⟩ := readable_iff_tells.mp hreadable
  rw [handle_tells known channelId tells] at hruns
  have course := runs_settle_course (o := ⟨known, channelId, .obj reward, .obj fields, title, user⟩) hruns
  refine ⟨fields, reward, title, user, rfl, tells, course.ordered, course.login_iff, course.action_iff,
    fun body args channel caller => ?_, course.say_iff, course.error_iff, fun t ht hstage => course.silent ht hstage,
    fun r body args channel caller inner v hrun => ?_⟩
  · rw [course.run_iff, arguments_eq_ok_iff]
  · rcases Router.runs_runCustom hrun with rfl | ⟨text, htext, rfl⟩
    · simp [Value.holds]
    · simp [Value.holds, htext]

/-- A reward that asks for an input, in a channel that is known. -/
theorem redemptions_speak_only_on_success_input :
    let details : Value := .obj [("reward", .obj [("title", .str "hug"), ("is_user_input_required", .bool true)]),
      ("user", .obj [("login", .str "ada")]), ("user_input", .str " you  there ")]
    let turns : List (Turn surroundings) := [⟨.action (.str "hug") "chan", .ok (.str "{hug $1}")⟩,
      ⟨.run (.str "{hug $1}") ["you", "there"] "chan" (.str "ada"), .ok (.str "hugs you")⟩,
      ⟨.say "chan" (.str "hugs you"), .ok ()⟩]
    Readable details ∧ Runs (handle [("7", "chan")] "7" details).outcome turns (.ok ()) ∧
      turns.Pairwise fun t t' => t.query.stage < t'.query.stage := by
  intro details turns
  have hreadable : Readable details := ⟨_, rfl, .inr ⟨_, rfl⟩, .inr ⟨_, rfl⟩⟩
  have hruns : Runs (handle [("7", "chan")] "7" details).outcome turns (.ok ()) := .ask _ (.ask _ (.ask _ (.done _)))
  obtain ⟨-, -, -, -, -, -, hordered, -⟩ := redemptions_speak_only_on_success hreadable hruns
  exact ⟨hreadable, hruns, hordered⟩

end Redemption

end ChannelBot
