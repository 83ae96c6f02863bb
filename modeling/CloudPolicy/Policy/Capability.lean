import CloudPolicy.Resource.Basic

/-! The filters and actions that there are, and those that each type of resource supports. Some
kinds share a name: what `delete` does depends on the type. -/

namespace CloudPolicy

/-- The kinds of filters. -/
inductive FilterKind where
  | value
  | attributes
  | age
  | tagCount
  | markedForOp
  | publicAddressCount
  | backendCount
  | isLogging
  | isNotLogging
  | isTransferred
  | isNotTransferred
  | redirectsToHttps
  | subnet
  | securityGroup
  | networkLocation
  | triggerType
  | reservedConcurrency
  | scriptWithoutReviewer
  | scriptWithoutReviewerUnderscored
  | topicLogging
  | topicAccess
  deriving DecidableEq, Repr, Inhabited

/-- The kinds of actions. -/
inductive ActionKind where
  | tag
  | mark
  | removeTag
  | unmark
  | untag
  | renameTag
  | normalizeTag
  | trimTags
  | markForOp
  | autoTagUser
  | deleteLoadBalancer
  | unbindPublicAddresses
  | enableLogging
  | createLogTransfer
  | deleteListener
  | setAccessControl
  | redirectToHttps
  | deleteFunction
  | updateConcurrency
  | modifySecurityGroups
  | showConfig
  | updateConfig
  | trimVersions
  | invoke
  | patchAlarm
  | patchAlarmUnderscored
  | scriptAlarm
  | scriptAlarmUnderscored
  | deleteTopic
  | createTopicLogging
  | deleteTopicLogging
  | updateAccess
  | deleteAccess
  | deleteAllowAll
  | notifyMessage
  | notifyStructure
  | notifyTemplate
  deriving DecidableEq, Repr, Inhabited

namespace FilterKind

/-- The name in policy documents. -/
def name : FilterKind → String
  | value => "value"
  | attributes => "attributes"
  | age => "age"
  | tagCount => "tag-count"
  | markedForOp => "marked-for-op"
  | publicAddressCount => "publicip-count"
  | backendCount => "backend-server-count"
  | isLogging => "is-logging"
  | isNotLogging => "is-not-logging"
  | isTransferred => "is-lts-log-transfer"
  | isNotTransferred => "is-not-lts-log-transfer"
  | redirectsToHttps => "is-redirect-to-https-listener"
  | subnet => "subnet"
  | securityGroup => "security-group"
  | networkLocation => "network-location"
  | triggerType => "trigger-type"
  | reservedConcurrency => "reserved-concurrency"
  | scriptWithoutReviewer => "script-non-reviewer"
  | scriptWithoutReviewerUnderscored => "script_non_reviewer"
  | topicLogging => "topic-lts"
  | topicAccess => "topic-access"

end FilterKind

namespace ActionKind

/-- The name in policy documents. -/
def name : ActionKind → String
  | tag => "tag"
  | mark => "mark"
  | removeTag => "remove-tag"
  | unmark => "unmark"
  | untag => "untag"
  | renameTag => "rename-tag"
  | normalizeTag => "normalize-tag"
  | trimTags => "tag-trim"
  | markForOp => "mark-for-op"
  | autoTagUser => "auto-tag-user"
  | deleteLoadBalancer => "delete"
  | unbindPublicAddresses => "unbind-publicips"
  | enableLogging => "enable-logging"
  | createLogTransfer => "create-lts-log-transfer"
  | deleteListener => "delete"
  | setAccessControl => "set-acl-ipgroup"
  | redirectToHttps => "redirect-to-https-listener"
  | deleteFunction => "delete-function"
  | updateConcurrency => "update-function-concurrency"
  | modifySecurityGroups => "modify-security-groups"
  | showConfig => "show-function-config"
  | updateConfig => "update-function-config"
  | trimVersions => "trim-versions"
  | invoke => "invoke-function"
  | patchAlarm => "patch-non-compliant-alarm"
  | patchAlarmUnderscored => "patch_non_compliant_alarm"
  | scriptAlarm => "script-non-reviewer-alarm"
  | scriptAlarmUnderscored => "script_non_reviewer_alarm"
  | deleteTopic => "delete"
  | createTopicLogging => "create-lts"
  | deleteTopicLogging => "delete-lts"
  | updateAccess => "update-access"
  | deleteAccess => "delete-access"
  | deleteAllowAll => "delete-allow-all-user-access"
  | notifyMessage => "notify-message"
  | notifyStructure => "notify-message-structure"
  | notifyTemplate => "notify-message-template"

/-- The actions on tags, which every taggable type supports. -/
def tagging : List ActionKind :=
  [tag, mark, removeTag, unmark, untag, renameTag, normalizeTag, trimTags, markForOp, autoTagUser]

/-- The actions that publish messages. -/
def notices : List ActionKind := [notifyMessage, notifyStructure, notifyTemplate]

end ActionKind

namespace ResourceType

/-- The filters of a type, in the order in which they are listed. -/
def filters : ResourceType → List FilterKind
  | loadBalancer =>
    [.value, .attributes, .age, .tagCount, .markedForOp, .publicAddressCount, .backendCount,
      .isLogging, .isNotLogging, .isTransferred, .isNotTransferred, .subnet]
  | listener => [.value, .attributes, .age, .tagCount, .markedForOp, .redirectsToHttps]
  | function =>
    [.value, .tagCount, .markedForOp, .triggerType, .reservedConcurrency, .subnet, .securityGroup,
      .networkLocation]
  | patch => [.value]
  | script => [.value, .scriptWithoutReviewer, .scriptWithoutReviewerUnderscored]
  | topic => [.value, .tagCount, .markedForOp, .topicLogging, .topicAccess]

/-- The actions of a type, in the order in which they are listed. -/
def actions : ResourceType → List ActionKind
  | loadBalancer =>
    ActionKind.tagging ++ [.deleteLoadBalancer, .unbindPublicAddresses, .enableLogging,
      .createLogTransfer] ++ ActionKind.notices
  | listener =>
    ActionKind.tagging ++ [.deleteListener, .setAccessControl, .redirectToHttps]
      ++ ActionKind.notices
  | function =>
    ActionKind.tagging ++ [.deleteFunction, .updateConcurrency, .modifySecurityGroups, .showConfig,
      .updateConfig, .trimVersions, .invoke] ++ ActionKind.notices
  | patch => [.patchAlarm, .patchAlarmUnderscored]
  | script => [.scriptAlarm, .scriptAlarmUnderscored]
  | topic =>
    ActionKind.tagging ++ [.deleteTopic, .createTopicLogging, .deleteTopicLogging, .updateAccess,
      .deleteAccess, .deleteAllowAll] ++ ActionKind.notices

def filterNames (type : ResourceType) : List String := type.filters.map (·.name)

def actionNames (type : ResourceType) : List String := type.actions.map (·.name)

/-- The filter with this name among those of a type. -/
def filter? (type : ResourceType) (name : String) : Option FilterKind :=
  type.filters.find? fun kind => kind.name = name

/-- The action with this name among those of a type. -/
def action? (type : ResourceType) (name : String) : Option ActionKind :=
  type.actions.find? fun kind => kind.name = name

end ResourceType

end CloudPolicy
