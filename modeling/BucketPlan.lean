import BucketPlan.Main
import BucketPlan.Proofs.Bucket.Nesting
import BucketPlan.Proofs.Bucket.Tiling
import BucketPlan.Proofs.Comparison.EchoedRange
import BucketPlan.Proofs.Comparison.PreviousPeriod
import BucketPlan.Proofs.Comparison.PreviousYear
import BucketPlan.Proofs.Limits.Service
import BucketPlan.Proofs.Period.Alignment
import BucketPlan.Proofs.Period.Coverage
import BucketPlan.Proofs.Period.DateSelection
import BucketPlan.Proofs.Period.EarlyCheck
import BucketPlan.Proofs.Plan.Consistency
import BucketPlan.Proofs.Calendar.Extremal
import BucketPlan.Proofs.Bucket.Steps
import BucketPlan.Proofs.Comparison.Labels
import BucketPlan.Proofs.Zone.InverseImage
import BucketPlan.Proofs.Calendar.FirstInstants
import BucketPlan.Proofs.Bucket.Conservation
import BucketPlan.Proofs.Bucket.Iteration
import BucketPlan.Proofs.Plan.Filters
import BucketPlan.Proofs.Text.Utf8
import BucketPlan.Proofs.Moment.Wire
import BucketPlan.Proofs.Service.BoundTexts
import BucketPlan.Proofs.Plan.WireDates
import BucketPlan.Proofs.Json.Rendered
import BucketPlan.Proofs.Json.Forms
import BucketPlan.Proofs.Service.Origins
import BucketPlan.Proofs.Calendar.ClockPasses
import BucketPlan.Proofs.Date.MonthShift
