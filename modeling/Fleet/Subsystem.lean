/-!
# Subsystems

The parts of the control plane that own something on behalf of a cluster and have to give it up when
the cluster is removed.
-/

namespace Fleet

/-- The kinds of resources that belong to one cluster. -/
inductive ResourceKind where
  | namespaces
  | deployments
  | pods
  | nodes
  | networkEntities
  | networkBaselines
  | secrets
deriving DecidableEq, Repr

namespace ResourceKind

/-- Every kind. -/
def all : List ResourceKind :=
  [.namespaces, .deployments, .pods, .nodes, .networkEntities, .networkBaselines, .secrets]

/-- The label of a kind in reports. -/
def label : ResourceKind → String
  | namespaces => "namespaces"
  | deployments => "deployments"
  | pods => "pods"
  | nodes => "nodes"
  | networkEntities => "network_entities"
  | networkBaselines => "network_baselines"
  | secrets => "secrets"

/-- The name by which the owner of a kind calls itself in its failures. -/
def ownerName : ResourceKind → String
  | networkEntities => "network-entities"
  | networkBaselines => "network-baselines"
  | kind => kind.label

/-- The kind with a label. -/
def ofLabel? (label : String) : Option ResourceKind :=
  all.find? (·.label = label)

end ResourceKind

/-- A subsystem that a teardown visits. -/
inductive Subsystem where
  | health
  | alerts
  | resources (kind : ResourceKind)
deriving DecidableEq, Repr

namespace Subsystem

/-- Every subsystem. -/
def all : List Subsystem :=
  .health :: .alerts :: ResourceKind.all.map .resources

/-- The label of a subsystem in reports. -/
def label : Subsystem → String
  | health => "health"
  | alerts => "alerts"
  | resources kind => kind.label

end Subsystem

end Fleet
