import CloudPolicy.Action.Attribution
import CloudPolicy.Action.Functions
import CloudPolicy.Action.Notices
import CloudPolicy.Action.Retagging
import CloudPolicy.Action.Topics
import CloudPolicy.Filter.Placement
import CloudPolicy.Filter.Topics

/-! What stands behind the kinds of filters and actions: the schema of their option blocks, and how
a block is built. -/

namespace CloudPolicy

namespace FilterKind

/-- The schema of the option blocks of a kind. -/
def schema : FilterKind → Json
  | value => Filter.valueSchema
  | attributes => Filter.attributesSchema
  | age => Filter.ageSchema
  | tagCount => Filter.countSchema "tag-count"
  | markedForOp => Filter.markedForOpSchema
  | publicAddressCount => Filter.countSchema "publicip-count"
  | backendCount => Filter.countSchema "backend-server-count"
  | isLogging => Action.plainSchema "is-logging"
  | isNotLogging => Action.plainSchema "is-not-logging"
  | isTransferred => Action.plainSchema "is-lts-log-transfer"
  | isNotTransferred => Action.plainSchema "is-not-lts-log-transfer"
  | redirectsToHttps =>
    BlockSchema.ofType "is-redirect-to-https-listener" RedirectTarget.properties []
  | subnet => Filter.attachedSchema .subnet
  | securityGroup => Filter.attachedSchema .securityGroup
  | networkLocation => Filter.placementSchema
  | triggerType => Filter.triggerSchema
  | reservedConcurrency => Filter.reservedSchema
  | scriptWithoutReviewer => Action.plainSchema "script-non-reviewer"
  | scriptWithoutReviewerUnderscored => Action.plainSchema "script_non_reviewer"
  | topicLogging => Filter.topicLoggingSchema
  | topicAccess => Filter.topicAccessSchema

/-- The filter that a block describes. -/
def build (kind : FilterKind) (block : Json) (context : BuildContext) : Except Error Filter :=
  match kind with
  | value => Filter.buildPredicate "value" block context
  | attributes => Filter.buildPredicate "attributes" block context
  | age => Filter.buildAge block context
  | tagCount => Filter.buildTagCount block context
  | markedForOp => Filter.buildMarkedForOp block context
  | publicAddressCount => Filter.buildPublicAddressCount block context
  | backendCount => Filter.buildBackendCount block context
  | isLogging => .ok (Filter.logging "is-logging" true)
  | isNotLogging => .ok (Filter.logging "is-not-logging" false)
  | isTransferred => .ok (Filter.transferred true)
  | isNotTransferred => .ok (Filter.transferred false)
  | redirectsToHttps => .ok (Filter.redirecting (.ofBlock block))
  | subnet => Filter.buildAttached .subnet block context
  | securityGroup => Filter.buildAttached .securityGroup block context
  | networkLocation => Filter.buildPlacement block context
  | triggerType => Filter.buildTriggered block context
  | reservedConcurrency => Filter.buildReserved block context
  | scriptWithoutReviewer => .ok (Filter.scriptWithoutReviewer "script-non-reviewer")
  | scriptWithoutReviewerUnderscored => .ok (Filter.scriptWithoutReviewer "script_non_reviewer")
  | topicLogging => .ok (Filter.topicLogging (block.boolOption "enabled" true))
  | topicAccess => .ok (Filter.topicAccess (.ofBlock block))

end FilterKind

namespace ActionKind

/-- The schema of the option blocks of a kind. -/
def schema : ActionKind → Json
  | tag => Action.tagSchema "tag"
  | mark => Action.tagSchema "mark"
  | removeTag => Action.removeTagSchema "remove-tag"
  | unmark => Action.removeTagSchema "unmark"
  | untag => Action.removeTagSchema "untag"
  | renameTag => Action.renameSchema
  | normalizeTag => Action.normalizeSchema
  | trimTags => Action.trimSchema
  | markForOp => Action.markForOpSchema
  | autoTagUser => Action.autoTagSchema
  | deleteLoadBalancer => Action.plainSchema "delete"
  | unbindPublicAddresses => Action.unbindSchema
  | enableLogging => Action.enableLoggingSchema
  | createLogTransfer => Action.createTransferSchema
  | deleteListener => Action.deleteListenerSchema
  | setAccessControl => Action.accessControlSchema
  | redirectToHttps =>
    BlockSchema.ofType "redirect-to-https-listener" RedirectTarget.properties []
  | deleteFunction => Action.plainSchema "delete-function"
  | updateConcurrency => Action.updateConcurrencySchema
  | modifySecurityGroups => Action.modifyGroupsSchema
  | showConfig => Action.plainSchema "show-function-config"
  | updateConfig => Action.updateConfigSchema
  | trimVersions => Action.trimVersionsSchema
  | invoke => Action.invokeSchema
  | patchAlarm => Action.alarmSchema "patch-non-compliant-alarm"
  | patchAlarmUnderscored => Action.alarmSchema "patch_non_compliant_alarm"
  | scriptAlarm => Action.alarmSchema "script-non-reviewer-alarm"
  | scriptAlarmUnderscored => Action.alarmSchema "script_non_reviewer_alarm"
  | deleteTopic => Action.plainSchema "delete"
  | createTopicLogging => Action.createLoggingSchema
  | deleteTopicLogging => Action.plainSchema "delete-lts"
  | updateAccess => Action.updateAccessSchema
  | deleteAccess => Action.plainSchema "delete-access"
  | deleteAllowAll => Action.plainSchema "delete-allow-all-user-access"
  | notifyMessage => Action.noticeSchema
  | notifyStructure => Action.structureSchema
  | notifyTemplate => Action.templateSchema

/-- The action that a block describes. -/
def build (kind : ActionKind) (block : Json) (context : BuildContext) : Except Error Action :=
  match kind with
  | tag => Action.buildTag "tag" block context
  | mark => Action.buildTag "mark" block context
  | removeTag => Action.buildRemoveTag "remove-tag" block context
  | unmark => Action.buildRemoveTag "unmark" block context
  | untag => Action.buildRemoveTag "untag" block context
  | renameTag => Action.buildRename block context
  | normalizeTag => Action.buildNormalize block context
  | trimTags => Action.buildTrim block context
  | markForOp => Action.buildMarkForOp block context
  | autoTagUser => Action.buildAutoTag block context
  | deleteLoadBalancer => .ok Action.deleteLoadBalancer
  | unbindPublicAddresses => Action.buildUnbind block context
  | enableLogging => Action.buildEnableLogging block context
  | createLogTransfer => Action.buildCreateTransfers block context
  | deleteListener => .ok (Action.deleteListener (block.textsOption "loadbalancers"))
  | setAccessControl => Action.buildSetAccessControl block context
  | redirectToHttps => .ok (Action.redirectToHttps (.ofBlock block))
  | deleteFunction => .ok Action.deleteFunction
  | updateConcurrency => Action.buildUpdateConcurrency block context
  | modifySecurityGroups => Action.buildModifyGroups block context
  | showConfig => .ok Action.showConfig
  | updateConfig => Action.buildUpdateConfig block context
  | trimVersions => Action.buildTrimVersions block context
  | invoke => Action.buildInvoke block context
  | patchAlarm => Action.buildAlarm (.patch "patch-non-compliant-alarm") block context
  | patchAlarmUnderscored => Action.buildAlarm (.patch "patch_non_compliant_alarm") block context
  | scriptAlarm => Action.buildAlarm (.script "script-non-reviewer-alarm") block context
  | scriptAlarmUnderscored =>
    Action.buildAlarm (.script "script_non_reviewer_alarm") block context
  | deleteTopic => .ok Action.deleteTopic
  | createTopicLogging => Action.buildCreateLogging block context
  | deleteTopicLogging => .ok Action.deleteLogging
  | updateAccess => Action.buildUpdateAccess block context
  | deleteAccess => .ok Action.deleteAccess
  | deleteAllowAll => .ok Action.deleteAllowAll
  | notifyMessage => Action.buildNotice block context
  | notifyStructure => Action.buildStructure block context
  | notifyTemplate => Action.buildTemplate block context

end ActionKind

end CloudPolicy
