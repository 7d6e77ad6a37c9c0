import ClaExemption.Lines
import ClaExemption.Proofs.Json.OneLine
import ClaExemption.Proofs.Service.Twin
import ClaExemption.Proofs.Text.Decoding
import ClaExemption.Proofs.Text.Framing
import Mathlib.Data.List.Forall2
import Mathlib.Data.List.TakeWhile

/-!
# Each line is answered for itself

What a line asks for can be read off that line (`Asks`), and its answer is the
one that the service gives which the stream started with (`Answered`): answering
a line leaves a service that `Follows` the one before (`answer_of_not_blank`),
and so does answering any number of them (`serveFrom_answers`). So a stream gets
one line for each of its lines that is not blank, and two streams one after the
other are answered as each of them is (`serve_answers_lines`).
-/

namespace ClaExemption

open Json Text

/-- The names of the members of an object. -/
def Json.Value.names : Value → List String
  | .object members => members.map (·.1)
  | _ => []

theorem Json.Value.mem_names_ofOptions {members : List (String × Option Value)} {name : String}
    (mem : name ∈ (Value.ofOptions members).names) : name ∈ members.map (·.1) := by
  obtain ⟨⟨_, value⟩, present, rfl⟩ := List.mem_map.1 mem
  obtain ⟨⟨name, value?⟩, member, e⟩ := List.mem_filterMap.1 present
  obtain ⟨_, -, e⟩ := Option.map_eq_some_iff.1 e
  cases e
  exact List.mem_map_of_mem member

namespace Lines

variable {line : List UInt8} {arrival arrival' : Arrival} {arrivals : Nat → Arrival}
  {s t : Service} {v v' : Value}

/-! ## What a line asks for -/

/-- Whether a line is white space and nothing else. -/
def IsBlank (line : List UInt8) : Prop :=
  ∃ w : String, AllBlank w.toList ∧ line = Utf8.encode w

/-- The request that a text writes down between white space, or what is wrong with it. -/
def readRequest (text : String) : Except String Request :=
  (decodeText Wire.decodeRequest ((trimChars text.toList).map some)).mapError fun flaw =>
    invalidMessage flaw.message

/-- What a line asks for: a request, or to be told what is wrong with the line. -/
inductive Asks (line : List UInt8) : Except String Request → Prop
  /-- No text has these bytes. -/
  | undecodable {flaw : Utf8.Flaw} : (∀ text : String, line ≠ Utf8.encode text) →
    Utf8.decode line = .error flaw → Asks line (.error (undecodableMessage flaw))
  | text {text : String} : line = Utf8.encode text → Asks line (readRequest text)

/-- What is left of a text without the white space around it is empty just if it is blank. -/
theorem trimChars_eq_nil_iff {chars : List Char} : trimChars chars = [] ↔ AllBlank chars := by
  have right {s : List Char} : trimRight s = [] ↔ AllBlank s := by
    rw [trimRight, List.reverse_eq_nil_iff, List.dropWhile_eq_nil_iff]
    simp only [List.mem_reverse]
    rfl
  rw [trimChars, right]
  refine ⟨fun h c mem => ?_, fun h => ?_⟩
  · rw [← List.takeWhile_append_dropWhile (p := isBlank) (l := chars)] at mem
    exact (List.mem_append.1 mem).elim List.mem_takeWhile_imp (h c)
  · rw [List.dropWhile_eq_nil_iff.2 h]
    exact fun c mem => absurd mem List.not_mem_nil

theorem ofBytes_of_error {flaw : Utf8.Flaw} (h : Utf8.decode line = .error flaw) :
    Line.ofBytes line = .undecodable flaw := by
  rw [Line.ofBytes, h]

theorem ofBytes_encode_of_blank {text : String} (h : AllBlank text.toList) :
    Line.ofBytes (Utf8.encode text) = .blank := by
  rw [Line.ofBytes, Utf8.decode_encode]
  dsimp only
  rw [trimChars_eq_nil_iff.2 h]

theorem ofBytes_encode {text : String} (h : ¬ AllBlank text.toList) :
    Line.ofBytes (Utf8.encode text) = .text (trimChars text.toList) := by
  rw [Line.ofBytes, Utf8.decode_encode]
  dsimp only
  split
  · next e => exact absurd (trimChars_eq_nil_iff.1 e) h
  · rfl

/-- The bytes of a line are flawed, or those of a text. -/
theorem flawed_or_text (line : List UInt8) :
    (∃ flaw, Utf8.decode line = .error flaw ∧ ∀ text : String, line ≠ Utf8.encode text) ∨
      ∃ text : String, line = Utf8.encode text := by
  cases e : Utf8.decode line with
  | error flaw =>
    refine .inl ⟨flaw, rfl, fun text spelled => ?_⟩
    rw [spelled, Utf8.decode_encode] at e
    cases e
  | ok chars => exact .inr ⟨_, Utf8.decode_eq_ok_iff.1 e⟩

theorem ofBytes_eq_blank_iff : Line.ofBytes line = .blank ↔ IsBlank line := by
  constructor
  · intro h
    rcases flawed_or_text line with ⟨flaw, e, -⟩ | ⟨text, rfl⟩
    · rw [ofBytes_of_error e] at h
      cases h
    · refine ⟨text, ?_, rfl⟩
      by_contra filled
      rw [ofBytes_encode filled] at h
      cases h
  · rintro ⟨text, blank, rfl⟩
    exact ofBytes_encode_of_blank blank

instance : DecidablePred IsBlank := fun line =>
  match e : Line.ofBytes line with
  | .blank => isTrue (ofBytes_eq_blank_iff.1 e)
  | .text _ => isFalse fun blank => Line.noConfusion (e.symm.trans (ofBytes_eq_blank_iff.2 blank))
  | .undecodable _ =>
    isFalse fun blank => Line.noConfusion (e.symm.trans (ofBytes_eq_blank_iff.2 blank))

/-- A line asks for one thing only. -/
theorem Asks.unique {ask ask' : Except String Request} (h : Asks line ask)
    (h' : Asks line ask') : ask = ask' := by
  cases h with
  | undecodable none e =>
    cases h' with
    | undecodable _ e' => cases e.symm.trans e'; rfl
    | text spelled => exact absurd spelled (none _)
  | text spelled =>
    cases h' with
    | undecodable none => exact absurd spelled (none _)
    | text spelled' => rw [Utf8.encode_injective (spelled.symm.trans spelled')]

/-! ## What a line is answered -/

/-- The answer of a service to a line. -/
inductive Answered (s : Service) (arrival : Arrival) (line : List UInt8) : Value → Prop
  /-- The line is no request. -/
  | refused {message : String} : Asks line (.error message) →
    Answered s arrival line (errorAnswer message arrival.freshId)
  /-- The check of the request has no decision. -/
  | failed {r : Request} {e : CheckError} {after : Service} : Asks line (.ok r) →
    s.check arrival.moment arrival.freshId r = some (.error e, after) →
    Answered s arrival line (errorAnswer e.message arrival.freshId)
  | decided {r : Request} {d : Decision} {after : Service} : Asks line (.ok r) →
    s.check arrival.moment arrival.freshId r = some (.ok d, after) →
    Answered s arrival line (Wire.encodeDecision d)

/-- Answers that differ at most in the ids of requests and in the times of events. -/
inductive Alike : Value → Value → Prop
  | refusal (message id id' : String) : Alike (errorAnswer message id) (errorAnswer message id')
  | decision {d d' : Decision} : d.untimed = d'.untimed →
    Alike (Wire.encodeDecision d) (Wire.encodeDecision d')

/-- The answer to a line depends on nothing but the line, how the service reads rules and which
records it holds. -/
theorem Answered.alike (twin : s.Twin t) (hs : s.session.cache.Reachable)
    (ht : t.session.cache.Reachable) (h : Answered s arrival line v)
    (h' : Answered t arrival' line v') : Alike v v' := by
  cases h with
  | refused asks =>
    cases h' with
    | refused asks' => cases asks.unique asks'; exact .refusal _ _ _
    | failed asks' | decided asks' => cases asks.unique asks'
  | failed asks e =>
    cases h' with
    | refused asks' => cases asks.unique asks'
    | failed asks' e' =>
      cases asks.unique asks'
      cases twin.untimed_eq hs ht e e'
      exact .refusal _ _ _
    | decided asks' e' =>
      cases asks.unique asks'
      cases twin.untimed_eq hs ht e e'
  | decided asks e =>
    cases h' with
    | refused asks' => cases asks.unique asks'
    | failed asks' e' =>
      cases asks.unique asks'
      cases twin.untimed_eq hs ht e e'
    | decided asks' e' =>
      cases asks.unique asks'
      exact .decision (Except.ok.inj (twin.untimed_eq hs ht e e'))

theorem error_not_mem_names_encodeDecision (d : Decision) :
    "error" ∉ (Wire.encodeDecision d).names := fun mem =>
  absurd (Value.mem_names_ofOptions mem) (by simp)

/-- An answer is a decision, which has no member for an error, or an error with the id of its
request. -/
theorem Answered.shape (h : Answered s arrival line v) :
    (∃ d, v = Wire.encodeDecision d ∧ "error" ∉ v.names) ∨
      ∃ message, v = .object [("error", .text message), ("request_id", .text arrival.freshId)] := by
  cases h with
  | refused | failed => exact .inr ⟨_, rfl⟩
  | @decided _ d => exact .inl ⟨d, rfl, error_not_mem_names_encodeDecision d⟩

/-! ## One line after the other -/

theorem answer_of_blank (blank : IsBlank line) : answer t arrival line = some (none, t) := by
  rw [answer, ofBytes_eq_blank_iff.2 blank]

/-- A service that follows another one answers the text of a line as the other one would. -/
theorem answerText_answers (follows : s.Follows t) (reachable : s.session.cache.Reachable)
    (fits : arrival.moment.started + s.timings.lifetime < clockLimit) {text : String}
    (spelled : line = Utf8.encode text) :
    ∃ v after, answerText t arrival (trimChars text.toList) = some (v, after) ∧
      Answered s arrival line v ∧ s.Follows after := by
  have asks : Asks line (readRequest text) := .text spelled
  unfold readRequest at asks
  unfold answerText
  split
  · next e =>
    rw [e] at asks
    exact ⟨_, _, rfl, .refused asks, follows.trans (Service.follows_log t _)⟩
  · next r e =>
    rw [e] at asks
    obtain ⟨answer, after, _, eq, eq', follows'⟩ :=
      follows.check reachable fits arrival.freshId r
    rw [eq']
    cases answer with
    | error flaw =>
      exact ⟨_, _, rfl, .failed asks eq, follows'.trans (Service.follows_log after _)⟩
    | ok d => exact ⟨_, _, rfl, .decided asks eq, follows'⟩

/-- A service that follows another one answers a line as the other one would, and leaves a service
that follows it, too. -/
theorem answer_of_not_blank (follows : s.Follows t) (reachable : s.session.cache.Reachable)
    (fits : arrival.moment.started + s.timings.lifetime < clockLimit) (filled : ¬ IsBlank line) :
    ∃ v after, answer t arrival line = some (some v, after) ∧ Answered s arrival line v ∧
      s.Follows after := by
  rcases flawed_or_text line with ⟨flaw, e, none⟩ | ⟨text, rfl⟩
  · rw [answer, ofBytes_of_error e]
    exact ⟨_, _, rfl, .refused (.undecodable none e), follows.trans (Service.follows_log t _)⟩
  · have filled : ¬ AllBlank text.toList := fun blank => filled ⟨text, blank, rfl⟩
    obtain ⟨v, after, e, answered, follows'⟩ := answerText_answers follows reachable fits rfl
    rw [answer, ofBytes_encode filled]
    dsimp only
    rw [e]
    exact ⟨v, after, rfl, answered, follows'⟩

/-- A service whose cache works, and whose timings the clock can show at every arrival. -/
structure Ready (arrivals : Nat → Arrival) (s : Service) : Prop where
  cache : s.session.cache.Reachable
  fits (i : Nat) : (arrivals i).moment.started + s.timings.lifetime < clockLimit

/-- The lines that are to be answered, each with its place, if the first line has the given one. -/
def requestsFrom (i : Nat) (lines : List (List UInt8)) : List (List UInt8 × Nat) :=
  (lines.zipIdx i).filter fun p => ¬ IsBlank p.1

/-- The lines of a stream that are to be answered, each with its place. -/
def requests (stream : List UInt8) : List (List UInt8 × Nat) := requestsFrom 0 (cut stream)

theorem map_fst_requestsFrom (i : Nat) (lines : List (List UInt8)) :
    (requestsFrom i lines).map (·.1) = lines.filter fun line => ¬ IsBlank line := by
  have split := List.filter_map (f := Prod.fst) (p := fun line => decide ¬ IsBlank line)
    (l := lines.zipIdx i)
  rw [List.zipIdx_map_fst] at split
  exact split.symm

/-- Every line that is not blank is answered as by the service at the start, wherever it stands. -/
theorem serveFrom_answers (ready : Ready arrivals s) (follows : s.Follows t) (i : Nat)
    (lines : List (List UInt8)) :
    let served := serveFrom arrivals i t lines
    served.finished = true ∧ s.Follows served.service ∧
      List.Forall₂ (fun p v => Answered s (arrivals p.2) p.1 v) (requestsFrom i lines)
        served.answers := by
  -- What a line leaves is not the first service, but it follows it, which is all that a line needs.
  induction lines generalizing i t with
  | nil => exact ⟨rfl, follows, .nil⟩
  | cons line lines ih =>
    unfold requestsFrom serveFrom
    rw [List.zipIdx_cons]
    by_cases blank : IsBlank line
    · rw [answer_of_blank blank, List.filter_cons_of_neg (by simpa using blank)]
      exact ih follows (i + 1)
    · obtain ⟨v, after, e, answered, follows'⟩ :=
        answer_of_not_blank follows ready.cache (ready.fits i) blank
      obtain ⟨finished, last, answers⟩ := ih follows' (i + 1)
      rw [e, List.filter_cons_of_pos (by simpa using blank)]
      exact ⟨finished, last, .cons answered answers⟩

/-! ## Streams -/

/-- An answer that some twin of a service gives to a line at some time. -/
def Answerable (s : Service) (line : List UInt8) (v : Value) : Prop :=
  ∃ t arrival, s.Twin t ∧ t.session.cache.Reachable ∧ Answered t arrival line v

theorem serve_answerable (twin : s.Twin t) (ready : Ready arrivals t) (stream : List UInt8) :
    List.Forall₂ (Answerable s) ((requests stream).map (·.1))
      (serve arrivals t stream).answers := by
  obtain ⟨-, -, answers⟩ := serveFrom_answers ready (.refl t) 0 (cut stream)
  rw [List.forall₂_map_left_iff]
  exact answers.imp fun p v answered => ⟨t, arrivals p.2, twin, ready.cache, answered⟩

theorem Answerable.alike (h : Answerable s line v) (h' : Answerable s line v') : Alike v v' := by
  obtain ⟨t, _, twin, reachable, answered⟩ := h
  obtain ⟨t', _, twin', reachable', answered'⟩ := h'
  exact answered.alike (twin.symm.trans twin') reachable reachable' answered'

/-- Answers to the same lines are alike, one by one. -/
theorem forall₂_alike {lines : List (List UInt8)} {vs vs' : List Value}
    (h : List.Forall₂ (Answerable s) lines vs) (h' : List.Forall₂ (Answerable s) lines vs') :
    List.Forall₂ Alike vs vs' := by
  induction h generalizing vs' with
  | nil =>
    cases h'
    exact .nil
  | cons answerable _ ih =>
    cases h' with
    | cons answerable' rest => exact .cons (answerable.alike answerable') (ih rest)

theorem requests_append {a : List UInt8} (ends : a.getLast? = some lineFeed) (b : List UInt8) :
    (requests (a ++ b)).map (·.1) = (requests a).map (·.1) ++ (requests b).map (·.1) := by
  unfold requests cut
  rw [map_fst_requestsFrom, map_fst_requestsFrom, map_fst_requestsFrom, splitAfter_append ends,
    List.filter_append]

/-- The text of the answers is a line for each of them. -/
theorem encode_output (served : Served) :
    Utf8.encode served.output =
      ((served.answers.map fun v => Utf8.encode v.render).map (· ++ [lineFeed])).flatten := by
  rw [Served.output, Utf8.encode_eq_flatMap, String.toList_join, List.flatMap_assoc,
    List.flatMap_map, List.map_map, ← List.flatMap_def]
  refine congrArg (List.flatMap · served.answers) (funext fun v => ?_)
  rw [String.toList_append, List.flatMap_append, ← Utf8.encode_eq_flatMap]
  rfl

theorem lineFeed_not_mem_render (v : Value) : lineFeed ∉ Utf8.encode v.render := fun mem =>
  have found : '\n' ∈ v.render.toList := Utf8.char_mem_of_mem_encode (by decide) mem
  v.newline_not_mem_chars (by rwa [Value.render, String.toList_ofList] at found)

/-- A stream is answered to its end, by one line for each of its lines that is not blank, in their
order: the decision of a check, or an error with the id of the request. The answer to a line is that
of the service before the stream, and the same, but for ids and times, wherever the line stands. So
a stream that is cut after a line feed is answered as its two parts are. -/
theorem serve_answers_lines (ready : Ready arrivals s) (stream : List UInt8) :
    let served := serve arrivals s stream
    let rendered := served.answers.map fun v => Utf8.encode v.render
    Pieces lineFeed stream (cut stream) ∧
    served.finished = true ∧ served.answers.length = (requests stream).length ∧
    Pieces lineFeed (Utf8.encode served.output) (rendered.map (· ++ [lineFeed])) ∧
    (∀ bytes ∈ rendered, lineFeed ∉ bytes) ∧
    List.Forall₂ (fun p v => Answered s (arrivals p.2) p.1 v ∧
      ((∃ d, v = Wire.encodeDecision d ∧ "error" ∉ v.names) ∨
        ∃ message, v = .object
          [("error", .text message), ("request_id", .text (arrivals p.2).freshId)]))
      (requests stream) served.answers ∧
    s.Follows served.service ∧
    (∀ (arrivals' : Nat → Arrival) (t : Service) (stream' : List UInt8), Ready arrivals' t →
      s.Twin t → ∀ p v p' v', (p, v) ∈ (requests stream).zip served.answers →
        (p', v') ∈ (requests stream').zip (serve arrivals' t stream').answers →
        p.1 = p'.1 → Alike v v') ∧
    ∀ (a b : List UInt8) (arrivals₁ arrivals₂ : Nat → Arrival) (s₁ s₂ : Service),
      stream = a ++ b → a.getLast? = some lineFeed → Ready arrivals₁ s₁ → Ready arrivals₂ s₂ →
      s.Twin s₁ → s.Twin s₂ →
      let first := serve arrivals₁ s₁ a
      let second := serve arrivals₂ s₂ b
      List.Forall₂ Alike served.answers (first.answers ++ second.answers) ∧
        served.answers.length = first.answers.length + second.answers.length := by
  intro served rendered
  obtain ⟨finished, follows, answers⟩ := serveFrom_answers ready (.refl s) 0 (cut stream)
  have oneLine : ∀ bytes ∈ rendered, lineFeed ∉ bytes := by
    intro bytes mem
    obtain ⟨v, -, rfl⟩ := List.mem_map.1 mem
    exact lineFeed_not_mem_render v
  refine ⟨pieces_splitAfter _ _, finished, answers.length_eq.symm, ?_, oneLine,
    answers.imp fun _ _ answered => ⟨answered, answered.shape⟩, follows, ?_, ?_⟩
  · rw [encode_output]
    exact pieces_flatten oneLine
  · intro arrivals' t stream' ready' twin p v p' v' mem mem' same
    obtain ⟨-, -, answers'⟩ := serveFrom_answers ready' (.refl t) 0 (cut stream')
    have answered := List.forall₂_zip answers mem
    have answered' := List.forall₂_zip answers' mem'
    exact answered.alike twin ready.cache ready'.cache (same ▸ answered')
  · rintro a b arrivals₁ arrivals₂ s₁ s₂ rfl ends ready₁ ready₂ twin₁ twin₂ first second
    have whole := serve_answerable (.refl s) ready (a ++ b)
    have ofFirst := serve_answerable twin₁ ready₁ a
    have ofSecond := serve_answerable twin₂ ready₂ b
    rw [requests_append ends] at whole
    have alike := forall₂_alike whole (List.rel_append ofFirst ofSecond)
    exact ⟨alike, alike.length_eq.trans List.length_append⟩

/-- A blank line, one that is not UTF-8, and one that is no request. -/
def noise : List UInt8 := Utf8.encode " \t\r\n" ++ (0xff :: Utf8.encode "\n[\n")

/-- A line with a request, which lacks its line feed. -/
def question : List UInt8 :=
  Utf8.encode "\x7b\"repository\":\"Acme/x\",\"actors\":[\x7b\"sha\":\"1\"\x7d]\x7d\r"

theorem serve_answers_lines_acme :
    let s := Service.quiet
    let arrivals (i : Nat) : Arrival := ⟨i.toUInt64, ⟨5, 6, 0⟩⟩
    let served := serve arrivals s (noise ++ question)
    Ready arrivals s ∧ noise.getLast? = some lineFeed ∧
    served.finished = true ∧ served.answers.length = 3 ∧
    List.Forall₂ Alike served.answers
      ((serve arrivals s noise).answers ++ (serve arrivals s question).answers) := by
  intro s arrivals served
  have lifetime : s.timings.lifetime = 300 * nanosPerSecond := Service.lifetime_foldl _ _
  have ready : Ready arrivals s := by
    have reachable : s.Reachable .extended := (Service.Reachable.start _ _ _ .disabled).foldl _
    refine ⟨reachable.cache, fun i => ?_⟩
    rw [lifetime]
    show 5 + 300 * nanosPerSecond < clockLimit
    decide
  have ends : noise.getLast? = some lineFeed := by decide +kernel
  have count : (requests (noise ++ question)).length = 3 := by decide +kernel
  obtain ⟨-, finished, length, -, -, -, -, -, parts⟩ :=
    serve_answers_lines ready (noise ++ question)
  obtain ⟨alike, -⟩ := parts noise question arrivals arrivals s s rfl ends ready ready
    (.refl s) (.refl s)
  exact ⟨ready, ends, finished, length.trans count, alike⟩

end Lines

end ClaExemption
