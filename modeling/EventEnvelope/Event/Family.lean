/-
  EventEnvelope.Event.Family
  ──────────────────────────
  **Families of trigger events.**

  Each family has one event class, whose objects wrap the JSON object of an event, and a decoder of
  its own.
-/
import EventEnvelope.Text.CodePoint

namespace EventEnvelope

/-- The trigger events that have a decoder of their own. -/
inductive EventFamily
  | queueMessageBatch
  | notificationBatch
  | streamRecordBatch
  | objectStorageEvent
  | gatewayRequestV1
  | gatewayRequestV2
deriving DecidableEq

namespace EventFamily

/-- All families, in the order in which a class is tried against them. -/
def all : List EventFamily :=
  [queueMessageBatch, notificationBatch, streamRecordBatch, objectStorageEvent, gatewayRequestV1,
    gatewayRequestV2]

/-- The name of a family. -/
def name : EventFamily → Text
  | queueMessageBatch => "queue_message_batch"
  | notificationBatch => "notification_batch"
  | streamRecordBatch => "stream_record_batch"
  | objectStorageEvent => "object_storage_event"
  | gatewayRequestV1 => "gateway_request_v1"
  | gatewayRequestV2 => "gateway_request_v2"

/-- The family with this name. -/
def ofName? (name : Text) : Option EventFamily := all.find? fun f => f.name == name

/-- Requests that come in through a gateway. -/
def isGatewayRequest (f : EventFamily) : Bool := f = gatewayRequestV1 || f = gatewayRequestV2

/-- The name of the family's event class. -/
def className : EventFamily → Text
  | queueMessageBatch => "SQSEvent"
  | notificationBatch => "SNSEvent"
  | streamRecordBatch => "KinesisStreamEvent"
  | objectStorageEvent => "S3Event"
  | gatewayRequestV1 => "APIGatewayProxyEvent"
  | gatewayRequestV2 => "APIGatewayProxyEventV2"

/-- Where the family's event class is defined. -/
def classHome (f : EventFamily) : Text :=
  let home : Text := match f with
    | queueMessageBatch => "sqs_event"
    | notificationBatch => "sns_event"
    | streamRecordBatch => "kinesis_stream_event"
    | objectStorageEvent => "s3_event"
    | gatewayRequestV1 => "api_gateway_proxy_event"
    | gatewayRequestV2 => "api_gateway_proxy_event"
  "aws_lambda_powertools.utilities.data_classes." ++ home

end EventFamily

end EventEnvelope
