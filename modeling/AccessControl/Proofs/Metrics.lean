import AccessControl.Metrics
import AccessControl.Proofs.Entries

namespace AccessControl.Metrics

theorem amount_set_self (metrics : Metrics) (metric : Metric) (value? : Option String)
    (amount : Amount) : (metrics.set metric value? amount).amount metric value? = amount := by
  simp [set, Metrics.amount, Entries.lookup_put_self]

theorem amount_set_of_ne (metrics : Metrics) {metric other : Metric}
    {value? other? : Option String}
    (different : (other.name, other?) ≠ (metric.name, value?)) (amount : Amount) :
    (metrics.set metric value? amount).amount other other? = metrics.amount other other? := by
  simp [set, Metrics.amount, Entries.lookup_put_of_ne different]

theorem amount_increment_self (metrics : Metrics) (metric : Metric)
    (value? : Option String) :
    (metrics.increment metric value?).amount metric value? =
      (metrics.amount metric value?).increment :=
  metrics.amount_set_self metric value? _

theorem amount_increment_of_ne (metrics : Metrics) {metric other : Metric}
    {value? other? : Option String}
    (different : (other.name, other?) ≠ (metric.name, value?)) :
    (metrics.increment metric value?).amount other other? = metrics.amount other other? :=
  metrics.amount_set_of_ne different _

section

variable {metric : Metric} {value? : Option String}

def Spares (metric : Metric) (value? : Option String) (change : Metrics → Metrics) : Prop :=
  ∀ metrics, (change metrics).amount metric value? = metrics.amount metric value?

theorem Spares.comp {first second : Metrics → Metrics} (spares : Spares metric value? second)
    (sparesToo : Spares metric value? first) : Spares metric value? (second ∘ first) :=
  fun metrics => (spares (first metrics)).trans (sparesToo metrics)

theorem Spares.repeat {change : Metrics → Metrics} (spares : Spares metric value? change)
    (times : Nat) : Spares metric value? (times.repeat change) := by
  induction times with
  | zero => exact fun _ => rfl
  | succ times ih => exact fun metrics => (spares _).trans (ih metrics)

theorem spares_increment {other : Metric} {other? : Option String}
    (different : (metric.name, value?) ≠ (other.name, other?)) :
    Spares metric value? (·.increment other other?) :=
  fun metrics => metrics.amount_increment_of_ne different

theorem spares_of_name {other : Metric} (different : metric.name ≠ other.name)
    (other? : Option String) : Spares metric value? (·.increment other other?) :=
  spares_increment fun same => different (congrArg Prod.fst same)

theorem spares_set {other : Metric} {other? : Option String}
    (different : (metric.name, value?) ≠ (other.name, other?)) (amount : Amount) :
    Spares metric value? (·.set other other? amount) :=
  fun metrics => metrics.amount_set_of_ne different amount

end

end AccessControl.Metrics
