import Tracing.Proofs.Making

/-!
# Tracing.Proofs.Endpoints

The endpoints that pipelines export to.

* `Text.contains_iff` — a text occurs in another one as a piece of it.
* `Endpoint.ofOptions_marked`, `ofOptions_secured`, `ofOptions_unsecured` — the endpoint of a text
  with a scheme, and those of a text without one.
* `Endpoint.Settled`  — an endpoint with a scheme, which says whether the channel is insecure. It is
  its own endpoint, whatever the flag for transport security (`Settled.again`).
* `buildExport_exports` — a pipeline exports to the endpoint of the options that it is built from.
* `endpoint_settled`  — the endpoint that options are built to, and what comes of building again.
-/

namespace Tracing

open Act

/-! ## Occurrences -/

theorem Text.occursIn_iff (part points : List CodePoint) :
    Text.occursIn part points = true ↔ part <:+: points := by
  induction points with
  | nil => simp [Text.occursIn]
  | cons c rest ih => simp [Text.occursIn, ih, List.infix_cons_iff]

theorem Text.contains_iff (t part : Text) : t.contains part = true ↔ part.points <:+: t.points :=
  Text.occursIn_iff _ _

/-- What occurs in a text still occurs once the text goes on. -/
theorem Text.contains_append {t part : Text} (h : t.contains part = true) (rest : Text) :
    (t ++ rest).contains part = true := by
  rw [Text.contains_iff] at h ⊢
  exact h.trans (List.infix_append [] t.points rest.points)

/-! ## Endpoints of options -/

namespace Endpoint

variable {o : Options} {url : Text} {endpoint : Endpoint}

theorem ofOptions_marked (given : o.otlpEndpoint = .str url)
    (marked : url.contains schemeMark = true) :
    ofOptions o = .ok { url, insecure := url.startsWith insecureScheme } := by
  have searched : (Value.str url).contains (.str schemeMark) = .ok (url.contains schemeMark) := rfl
  rw [ofOptions, given, searched, marked]
  rfl

theorem ofOptions_secured (given : o.otlpEndpoint = .str url)
    (unmarked : url.contains schemeMark = false) (secure : o.otlpUseTls.isTruthy = true) :
    ofOptions o = .ok { url := "https://" ++ url, insecure := false } := by
  have searched : (Value.str url).contains (.str schemeMark) = .ok (url.contains schemeMark) := rfl
  rw [ofOptions, given, searched, unmarked, secure]
  rfl

theorem ofOptions_unsecured (given : o.otlpEndpoint = .str url)
    (unmarked : url.contains schemeMark = false) (insecure : o.otlpUseTls.isTruthy = false) :
    ofOptions o = .ok { url := insecureScheme ++ url, insecure := true } := by
  have searched : (Value.str url).contains (.str schemeMark) = .ok (url.contains schemeMark) := rfl
  rw [ofOptions, given, searched, unmarked, insecure]
  rfl

/-- An endpoint with a scheme, which alone says whether the channel is insecure. -/
structure Settled (endpoint : Endpoint) : Prop where
  marked : endpoint.url.contains schemeMark = true
  insecure : endpoint.insecure = endpoint.url.startsWith insecureScheme

/-- The secure scheme differs from the other one in its fifth character. -/
theorem startsWith_secured (url : Text) :
    (("https://" : Text) ++ url).startsWith insecureScheme = false := rfl

theorem Settled.of_secured (url : Text) :
    Settled { url := "https://" ++ url, insecure := false } where
  marked := Text.contains_append (by decide) url
  insecure := (startsWith_secured url).symm

theorem Settled.of_unsecured (url : Text) :
    Settled { url := insecureScheme ++ url, insecure := true } where
  marked := Text.contains_append (by decide) url
  insecure := (Text.startsWith_append insecureScheme url).symm

/-- Options that give the text of a settled endpoint have this endpoint, whatever the flag says. -/
theorem Settled.again (settled : endpoint.Settled) (given : o.otlpEndpoint = .str endpoint.url) :
    ofOptions o = .ok endpoint := by
  rw [ofOptions_marked given settled.marked, ← settled.insecure]

/-- The endpoint that a text stands for: the text itself if it has a scheme, and else the text
behind the scheme that the flag for transport security says. -/
structure StandsFor (endpoint : Endpoint) (url : Text) (secure : Bool) : Prop where
  settled : endpoint.Settled
  kept : url.contains schemeMark = true → endpoint.url = url
  secured : url.contains schemeMark = false → secure = true → endpoint.url = "https://" ++ url
  unsecured : url.contains schemeMark = false → secure = false → endpoint.url = "http://" ++ url

theorem ofOptions_standsFor (given : o.otlpEndpoint = .str url) :
    ∃ endpoint, ofOptions o = .ok endpoint ∧ endpoint.StandsFor url o.otlpUseTls.isTruthy := by
  cases marked : url.contains schemeMark with
  | true =>
    refine ⟨_, ofOptions_marked given marked, ?_⟩
    exact
      { settled := { marked, insecure := rfl }
        kept := fun _ => rfl
        secured := by simp [marked]
        unsecured := by simp [marked] }
  | false =>
    cases secure : o.otlpUseTls.isTruthy with
    | true =>
      refine ⟨_, ofOptions_secured given marked secure, ?_⟩
      exact
        { settled := .of_secured url
          kept := by simp [marked]
          secured := fun _ _ => rfl
          unsecured := by simp }
    | false =>
      refine ⟨_, ofOptions_unsecured given marked secure, ?_⟩
      exact
        { settled := .of_unsecured url
          kept := by simp [marked]
          secured := by simp
          unsecured := fun _ _ => rfl }

end Endpoint

/-! ## Pipelines that export -/

/-- The processor of the pipeline exports to the endpoint, and the pipeline is named for it. -/
structure World.ExportsTo (w : World) (p : Ref Pipeline) (endpoint : Endpoint) : Prop where
  target : (w.processors.get (w.pipelines.get p).processor).target.map (·.endpoint) = some endpoint
  name : (w.pipelines.get p).name = .str ("otlp:" ++ endpoint.url)

/-- Wherever a pipeline is built from the options, it exports to the endpoint. -/
def Options.ExportTo (o : Options) (endpoint : Endpoint) : Prop :=
  ∀ w p w', Pipeline.buildExport o w = .ok p w' → w'.ExportsTo p endpoint

/-- A pipeline can be built from the options, wherever that is. -/
def Options.Buildable (o : Options) : Prop := ∀ w, ∃ p w', Pipeline.buildExport o w = .ok p w'

section

variable {o o' : Options} {url : Text} {x : Processor} {endpoint endpoint' : Endpoint}
  {w w' : World} {p : Ref Pipeline}

theorem exportProcessor_target (h : Pipeline.exportProcessor o = .ok (x, endpoint)) :
    Endpoint.ofOptions o = .ok endpoint ∧ x.target.map (·.endpoint) = some endpoint := by
  obtain ⟨e, he, h⟩ := ok_of_bind h
  obtain ⟨b, -, h⟩ := ok_of_bind h
  split at h
  · cases h
    exact ⟨he, rfl⟩
  · obtain ⟨_, -, h⟩ := ok_of_bind h
    cases h
    exact ⟨he, rfl⟩

/-- Once there is an endpoint, only the batch options can be in the way of a processor that
exports. -/
theorem exportProcessor_ok (h : Pipeline.exportProcessor o = .ok (x, endpoint))
    (there : Endpoint.ofOptions o' = .ok endpoint') (batching : o'.batching = o.batching) :
    ∃ x', Pipeline.exportProcessor o' = .ok (x', endpoint') := by
  obtain ⟨_, he, h'⟩ := ok_of_bind h
  obtain ⟨b, hb, -⟩ := ok_of_bind h'
  rw [exportProcessor_run he hb] at h
  rw [exportProcessor_run there (batching ▸ hb)]
  cases sync : b.syncExport.isTruthy with
  | true => exact ⟨_, rfl⟩
  | false =>
    cases sizes : b.checkSizes with
    | ok => exact ⟨_, rfl⟩
    | error e =>
      rw [sync, sizes] at h
      cases h

theorem buildExport_ok (h : Pipeline.buildExport o w = .ok p w') :
    ∃ x endpoint, Pipeline.exportProcessor o = .ok (x, endpoint) ∧ p = w.pipelines.next ∧
      w' = w.exporting x endpoint := by
  rw [buildExport_run] at h
  cases hx : Pipeline.exportProcessor o with
  | error e => simp [hx] at h
  | ok made =>
    rw [hx] at h
    obtain ⟨rfl, rfl⟩ := EStateM.Result.ok.inj h
    exact ⟨made.1, made.2, rfl, rfl, rfl⟩

theorem buildExport_exports (there : Endpoint.ofOptions o = .ok endpoint) :
    o.ExportTo endpoint := by
  intro w p w' h
  obtain ⟨x, e, hx, rfl, rfl⟩ := buildExport_ok h
  obtain ⟨he, target⟩ := exportProcessor_target hx
  obtain rfl : e = endpoint := Except.ok.inj (he.symm.trans there)
  have pipeline : (w.exporting x e).pipelines.get w.pipelines.next =
      { processor := w.processors.next, name := .str ("otlp:" ++ e.url) } :=
    w.pipelines.get_add_self _
  have processor : (w.exporting x e).processors.get w.processors.next = x :=
    w.processors.get_add_self x
  exact
    { target := by rw [pipeline, processor, target]
      name := by rw [pipeline] }

/-- Options with the same batch options and with an endpoint can be built, if some can. -/
theorem buildExport_again (h : Pipeline.buildExport o w = .ok p w')
    (there : Endpoint.ofOptions o' = .ok endpoint') (batching : o'.batching = o.batching) :
    o'.Buildable := by
  obtain ⟨x, endpoint, hx, -, -⟩ := buildExport_ok h
  obtain ⟨x', hx'⟩ := exportProcessor_ok hx there batching
  intro v
  exact ⟨v.pipelines.next, v.exporting x' endpoint', by rw [buildExport_run, hx']⟩

/-- The endpoint that a pipeline built from the options exports to, for the text that they give. -/
structure Options.SettleOn (o : Options) (url : Text) (endpoint : Endpoint) : Prop where
  exports : o.ExportTo endpoint
  hasScheme : endpoint.url.contains "://" = true
  insecure_iff : endpoint.insecure = true ↔ endpoint.url.startsWith "http://" = true
  /-- A text with a scheme is the endpoint, and the flag for transport security has no influence. -/
  kept : url.contains "://" = true → endpoint.url = url ∧
    ∀ tls, Options.ExportTo { o with otlpUseTls := tls } endpoint ∧
      Options.Buildable { o with otlpUseTls := tls }
  /-- A text without a scheme gets the one that the flag says. -/
  prefixed : url.contains "://" = false →
    (o.otlpUseTls.isTruthy = true → endpoint.url = "https://" ++ url) ∧
      (o.otlpUseTls.isTruthy = false → endpoint.url = "http://" ++ url)
  /-- Built from options that give the endpoint itself, a pipeline exports to it again. -/
  again : ∀ o' : Options, o'.otlpEndpoint = .str endpoint.url →
    o'.ExportTo endpoint ∧ (o'.batching = o.batching → o'.Buildable)

/-- A pipeline that is built from options with a text exports to the endpoint that the text stands
for. Building from that endpoint again gives the same one, whatever the flag says. -/
theorem endpoint_settled (given : o.otlpEndpoint = .str url)
    (built : Pipeline.buildExport o w = .ok p w') :
    ∃ endpoint, w'.ExportsTo p endpoint ∧ o.SettleOn url endpoint := by
  obtain ⟨endpoint, there, stands⟩ := Endpoint.ofOptions_standsFor given
  have exports := buildExport_exports there
  have again : ∀ o' : Options, o'.otlpEndpoint = .str endpoint.url →
      o'.ExportTo endpoint ∧ (o'.batching = o.batching → o'.Buildable) := by
    intro o' same
    have there' := stands.settled.again same
    exact ⟨buildExport_exports there', buildExport_again built there'⟩
  refine ⟨endpoint, exports _ _ _ built, ?_⟩
  exact
    { exports, again
      hasScheme := stands.settled.marked
      insecure_iff := by
        rw [stands.settled.insecure]
        rfl
      kept := fun marked => by
        have same := stands.kept marked
        refine ⟨same, fun tls => ?_⟩
        obtain ⟨exports', buildable⟩ :=
          again { o with otlpUseTls := tls } (given.trans (by rw [same]))
        exact ⟨exports', buildable rfl⟩
      prefixed := fun unmarked => ⟨stands.secured unmarked, stands.unsecured unmarked⟩ }

end

/-- A scheme in the middle of a text is one, and not the insecure one at its beginning. -/
example : Endpoint.ofOptions { otlpEndpoint := .str "relay?to=http://collector" } =
    .ok { url := "relay?to=http://collector", insecure := false } := rfl

/-- A text without a scheme, and a flag that is set to a text. -/
def securedOptions : Options :=
  { otlpEndpoint := .str "collector:4317", otlpUseTls := .str "yes" }

theorem secured_endpoint_settled :
    ∃ p w', Pipeline.buildExport securedOptions {} = .ok p w' ∧
      ∃ endpoint, w'.ExportsTo p endpoint ∧ securedOptions.SettleOn "collector:4317" endpoint := by
  have built : Pipeline.buildExport securedOptions {} = .ok ⟨0⟩ _ := rfl
  exact ⟨_, _, built, endpoint_settled rfl built⟩

end Tracing
