import LogTree.Emission

namespace LogTree

/-- A logger seen by one object that asks for more or less output. -/
structure Adapter where
  echo : Echo
  logger : LoggerId
deriving DecidableEq

namespace Adapter

def effectiveLevel (adapter : Adapter) (registry : Registry) : Level :=
  match adapter.echo.level? with
  | some level => level
  | none => registry.effectiveLevel adapter.logger

def isEnabledFor (adapter : Adapter) (registry : Registry) (level : Level) : Bool :=
  !registry.isDisabled level && adapter.effectiveLevel registry ≤ level

def log (adapter : Adapter) (registry : Registry) (call : Call) (draft : Draft)
    (outputs : Outputs) : Delivery :=
  if adapter.isEnabledFor registry call.level then
    registry.emit adapter.logger call.level call.failure? draft outputs
  else
    { outputs }

def describe (adapter : Adapter) (registry : Registry) : String :=
  "InstanceLogger \x7b echo: " ++ adapter.echo.describe ++ ", logger: " ++
    registry.describe adapter.logger ++ " \x7d"

end Adapter

inductive Outlet where
  | direct (logger : LoggerId)
  | adapted (adapter : Adapter)
deriving DecidableEq

namespace Outlet

def logger : Outlet → LoggerId
  | direct logger => logger
  | adapted adapter => adapter.logger

def isAdapted : Outlet → Bool
  | direct _ => false
  | adapted _ => true

def effectiveLevel (outlet : Outlet) (registry : Registry) : Level :=
  match outlet with
  | direct logger => registry.effectiveLevel logger
  | adapted adapter => adapter.effectiveLevel registry

def isEnabledFor (outlet : Outlet) (registry : Registry) (level : Level) : Bool :=
  match outlet with
  | direct logger => registry.isEnabledFor logger level
  | adapted adapter => adapter.isEnabledFor registry level

def log (outlet : Outlet) (registry : Registry) (call : Call) (draft : Draft)
    (outputs : Outputs) : Delivery :=
  match outlet with
  | direct logger => registry.log logger call draft outputs
  | adapted adapter => adapter.log registry call draft outputs

def describe (outlet : Outlet) (registry : Registry) : String :=
  match outlet with
  | direct logger => "Direct(" ++ registry.describe logger ++ ")"
  | adapted adapter => "Instance(" ++ adapter.describe registry ++ ")"

end Outlet

end LogTree
